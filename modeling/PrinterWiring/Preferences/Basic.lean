import PrinterWiring.Enumerated
import PrinterWiring.PrinterConfig.Mode
import PrinterWiring.Storage.Files

/-!
# Preferences

What a user sets once for all sessions: a catalog of further boards, where files are written to, and how
they are rendered. Preferences are only accepted as a whole: the catalog has to be a file that is there,
and the directory has to have a name.
-/

namespace PrinterWiring

/-- The choices of a user. -/
structure Preferences where
  /-- A catalog that is merged over the built-in one. -/
  catalog : Option String
  /-- Where configuration files are written to. -/
  outputDirectory : String
  mode : RenderMode
deriving DecidableEq

/-- The name of a preference. -/
inductive PreferenceKey where
  | catalog | outputDirectory | mode
deriving DecidableEq

namespace PreferenceKey

instance : Enumerated PreferenceKey where
  all := [catalog, outputDirectory, mode]
  nodup := by decide
  mem_all := by intro k; cases k <;> decide

/-- The text of a key. -/
def name : PreferenceKey → String
  | catalog => "paths.catalog"
  | outputDirectory => "paths.output_dir"
  | mode => "render.mode"

/-- The key that a text is. -/
def named? : String → Option PreferenceKey := Enumerated.named? name

end PreferenceKey

/-- Why preferences were refused. -/
inductive PreferencesError where
  | unreadable (path : String) (cause : ReadFailure)
  /-- The file is no TOML, or not of the shape of preferences. -/
  | malformed (path : String)
  | catalogMissing (path : String)
  | noOutputDirectory
  | unknownKey (given : String)
  | badMode (cause : NameError)
deriving DecidableEq

namespace PreferencesError

/-- The wording of an error, without its cause. -/
def message : PreferencesError → String
  | unreadable path _ => "Failed to read config file: " ++ path
  | malformed path => "Failed to parse config file: " ++ path
  | catalogMissing path => "Catalog file not found: " ++ path
  | noOutputDirectory => "paths.output_dir cannot be empty"
  | unknownKey given =>
    s!"Unknown config key '{given}'. Expected one of: "
      ++ ", ".intercalate ((Enumerated.all : List PreferenceKey).map PreferenceKey.name)
  | badMode cause => cause.message

/-- The wording of an error, with its cause. -/
def fullMessage (e : PreferencesError) : String :=
  match e with
  | unreadable _ cause => e.message ++ ": " ++ cause.message
  | _ => e.message

end PreferencesError

namespace Preferences

/-- The preferences of a user who set none. -/
def standard : Preferences := ⟨none, ".", .strict⟩

/-- Checks preferences against the files that are there. -/
def check (fs : Files) (p : Preferences) : Except PreferencesError Unit := do
  match p.catalog with
  | some path => if !fs.isFile path then throw (.catalogMissing path)
  | none => pure ()
  if p.outputDirectory.isEmpty then throw .noOutputDirectory

/-- Gives a preference the value of a trimmed text. An empty text leaves no catalog. -/
def put (p : Preferences) (k : PreferenceKey) (v : String) : Except PreferencesError Preferences :=
  match k with
  | .catalog => .ok { p with catalog := Text.nonEmpty? v }
  | .outputDirectory => .ok { p with outputDirectory := v }
  | .mode => ((RenderMode.parse v).mapError .badMode).map fun m => { p with mode := m }

/-- Sets a preference by its key. -/
def set (fs : Files) (p : Preferences) (key v : String) : Except PreferencesError Preferences := do
  let some k := PreferenceKey.named? key | throw (.unknownKey key)
  let changed ← p.put k (Text.trim v)
  changed.check fs
  return changed

/-- The text of a preference, if it has a value. -/
def get? (p : Preferences) : PreferenceKey → Option String
  | .catalog => p.catalog
  | .outputDirectory => some p.outputDirectory
  | .mode => some p.mode.name

/-- The text of a preference by its key. -/
def getNamed? (p : Preferences) (key : String) : Option String := (PreferenceKey.named? key).bind p.get?

def toJson (p : Preferences) : Json := .obj
  [("paths", .obj [("catalog", .ofOption .text p.catalog), ("output_dir", .text p.outputDirectory)]),
   ("render", .obj [("mode", p.mode.toJson)])]

end Preferences

end PrinterWiring
