import PrinterWiring.Preferences.Basic
import PrinterWiring.Text.Column
import PrinterWiring.Toml.Reader
import PrinterWiring.Toml.Writer

/-!
# The file of preferences

Preferences are kept as TOML, in the tables `paths` and `render`. What the file does not say is standard,
and what it says of other things is passed over.
-/

namespace PrinterWiring.Preferences

/-- The value of a field, or a standard one if there is no such field; `none` if it is of another kind. -/
def fieldOr {α : Type} (read? : Toml → Option α) (standard : α) (name : String) (fields : List (String × Toml)) :
    Option α :=
  match fields.lookup name with
  | some v => read? v
  | none => some standard

/-- Reads a render mode, by its exact name. -/
def mode? (v : Toml) : Option RenderMode := do Enumerated.named? RenderMode.name (← v.name?)

/-- The preferences of a document. -/
def ofToml? (document : Toml) : Option Preferences := do
  let tables ← document.fields? ["paths", "render"]
  let paths ← fieldOr (Toml.fields? ["catalog", "output_dir"]) [] "paths" tables
  let render ← fieldOr (Toml.fields? ["mode"]) [] "render" tables
  return ⟨← fieldOr (fun v => v.text?.map some) standard.catalog "catalog" paths,
    ← fieldOr Toml.text? standard.outputDirectory "output_dir" paths, ← fieldOr mode? standard.mode "mode" render⟩

/-- Reads the text of a file of preferences. -/
def read? (text : String) : Option Preferences := (Toml.read? text).bind ofToml?

/-- Loads preferences from a file. Where there is none, they are standard. -/
def load (fs : Files) (path : String) : Except PreferencesError Preferences := do
  if !fs.exists? path then return standard
  let text ← (fs.read path).mapError (.unreadable path)
  let some p := read? text | throw (.malformed path)
  p.check fs
  return p

/-- The text of a file of preferences. -/
def toText (p : Preferences) : String :=
  let entry (key v : String) : String := key ++ " = " ++ Toml.quote v
  Text.unlines (["[paths]"] ++ p.catalog.toList.map (entry "catalog") ++ [entry "output_dir" p.outputDirectory, "",
    "[render]", entry "mode" p.mode.name])

/-- What saves preferences to a file. -/
def save (fs : Files) (p : Preferences) (path : String) : Except PreferencesError Replacement := do
  p.check fs
  return ⟨path, Path.withExtension "toml.tmp" path, p.toText⟩

end PrinterWiring.Preferences
