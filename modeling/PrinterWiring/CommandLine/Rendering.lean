import PrinterWiring.CommandLine.Listings
import PrinterWiring.PrinterConfig.Render
import PrinterWiring.Report.Review

/-!
# Validating and rendering

The commands that review a session and that render its configuration.
-/

namespace PrinterWiring.CommandLine

/-! ## Validating -/

/-- A problem as JSON. -/
def problemJson (p : Problem) : Json := .obj <|
  [("severity", .text "error"), ("kind", .text p.kind.key), ("field", .text p.field)]
    ++ (p.place.toList.map fun q => ("port", .text q.1.toText))
    ++ [("message", .text p.message)]
    ++ (p.suggestion.toList.map fun s => ("suggestion", .text s))

/-- A warning as JSON. -/
def warningJson (s : String) : Json := .obj [("severity", .text "warning"), ("message", .text s)]

/-- A report as JSON. -/
def reportJson (r : Report) : Json := .obj
  [("valid", .bool r.isValid), ("missing_fields", .texts r.missingFields),
   ("issues", .arr (r.problems.map problemJson ++ r.warnings.map warningJson))]

/-- A report as text. -/
def reportText (r : Report) : String :=
  if r.isValid && r.warnings.isEmpty then "✓ Validation passed\n"
  else (if r.isValid then "✓ Validation passed with warnings\n\n" else "✗ Validation failed\n\n") ++ r.toText

/-- Fails if the report does. Warnings count in a strict validation. -/
def verdict (strict : Bool) (r : Report) : Except Failure Unit :=
  if !r.isValid then .error (.refused "Validation failed")
  else if strict && !r.warnings.isEmpty then .error (.refused "Warnings found in strict mode")
  else .ok ()

/-- Validates a session. What is wrong is told before the command fails for it. -/
def validate (json strict : Bool) (source : SessionSource) : Action Unit := do
  let o ← opening source.openExisting
  let r := o.session.review
  .print (if json then jsonText (reportJson r) else reportText r)
  verdict strict r

/-! ## Rendering -/

/-- Rendered files as JSON. -/
def renderedJson (mode : RenderMode) (r : Rendered) : Json := .obj
  [("mode", mode.toJson), ("files", .obj (r.texts.map fun p => (p.1, .text p.2))), ("warnings", .texts r.warnings)]

/-- What writes a rendered file to a directory. -/
def writing (directory : String) (file : String × String) : Replacement :=
  let path := Path.join directory file.1
  ⟨path, Path.withExtension "cfg.tmp" path, file.2⟩

/-- Delivers rendered files. -/
def deliver (mode : RenderMode) (p : Preferences) (r : Rendered) : Delivery → Action Unit
  | .printJson => .print (jsonText (renderedJson mode r))
  | .print => do
    .warn r.warnings
    .print (String.join (r.texts.map fun file => s!"# ==> {file.1} <==\n" ++ file.2))
  | .write directory => do
    .warn r.warnings
    let written := r.texts.map (writing (directory.getD p.outputDirectory))
    written.forM .replace
    .print (Text.unlines (s!"✓ Config generated ({mode.name})" :: written.map ("  " ++ ·.target)))

/-- Renders the configuration of a session. -/
def generate (mode : Option RenderMode) (delivery : Delivery) (source : SessionSource) : Action Unit := do
  let o ← opening source.openExisting
  let mode := mode.getD o.preferences.mode
  let r ← (o.session.render mode).mapError fun e =>
    Failure.refused s!"Cannot render in {mode.name} mode: {e.message} (use --placeholder for a draft)"
  deliver mode o.preferences r delivery

end PrinterWiring.CommandLine
