import PrinterWiring.Catalog.Builtin
import PrinterWiring.Catalog.File
import PrinterWiring.CommandLine.Action
import PrinterWiring.CommandLine.Command
import PrinterWiring.Preferences.File
import PrinterWiring.SessionFile.Reader
import PrinterWiring.SessionFile.Writer

/-!
# Opening and saving

What a command works on: the preferences, the catalog, and the session of a session file. A session that
could not be restored whole can be looked at but is not saved, because saving would drop what was left out.
-/

namespace PrinterWiring.CommandLine

namespace Sources

/-- Loads the preferences. -/
def loadPreferences (s : Sources) (h : Host) : Except Failure Preferences :=
  (Preferences.load h.files (h.preferencesPath s.preferences)).mapError fun e =>
    .unusable ("Failed to load configuration: " ++ e.fullMessage)

/-- Merges a catalog file over the built-in catalog. -/
def mergeFile (h : Host) (path : String) : Except String Catalog := do
  let text ← (h.files.read path).mapError fun e => s!"Failed to read catalog file: {path}: {e.message}"
  (Catalog.builtin.mergeText text).mapError fun e => s!"Failed to load catalog file: {path}: {e.message}"

/-- Loads the catalog: the built-in boards, and those of the file that the command or else the preferences
name. -/
def loadCatalog (s : Sources) (h : Host) (p : Preferences) : Except Failure Catalog :=
  match s.catalog.or p.catalog with
  | none => .ok .builtin
  | some path => (mergeFile h path).mapError fun message => .unusable ("Failed to load board catalog: " ++ message)

/-- Loads the preferences and the catalog. -/
def load (s : Sources) (h : Host) : Except Failure (Preferences × Catalog) := do
  let p ← s.loadPreferences h
  return (p, ← s.loadCatalog h p)

end Sources

/-- A session that was opened, with what it came from. -/
structure OpenSession where
  path : String
  preferences : Preferences
  catalog : Catalog
  session : Session
  /-- What could not be restored. -/
  skipped : List RestoreIssue

/-- What saves a session. -/
def saving (path : String) (s : Session) : Replacement :=
  ⟨path, Path.withExtension "tmp" path, SessionFile.write s.toDocument⟩

namespace OpenSession

/-- The warnings about what could not be restored. -/
def warnings (o : OpenSession) : List String := o.skipped.map fun i => "skipped " ++ i.message

/-- Saves another session in place of the one that was opened. -/
def save (o : OpenSession) (s : Session) : Action Unit := do
  if o.skipped.isEmpty then .replace (saving o.path s)
  else
    let entries := o.skipped.map RestoreIssue.message
    let count := toString entries.length ++ (if entries.length = 1 then " entry" else " entries")
    throw (.refused (s!"Not saving {o.path}: {count} could not be restored (" ++ "; ".intercalate entries
      ++ "). Pass the catalog that defines them with --catalog, or fix the file by hand"))

end OpenSession

namespace SessionSource

/-- Reads the document of the session file. -/
def readDocument (s : SessionSource) (h : Host) : Except Failure Document := do
  let text ← (h.files.read s.path).mapError fun e =>
    .unusable s!"Failed to read session file: {s.path}: {e.message}"
  (SessionFile.read text).mapError fun e => .unusable s!"Failed to parse session file: {s.path}: {e.message}"

/-- Opens the session. Where there is no file, the session is empty. -/
def openOrCreate (s : SessionSource) (h : Host) : Except Failure OpenSession := do
  let (p, c) ← s.sources.load h
  if h.files.exists? s.path then
    let (restored, skipped) := Session.restore c (← s.readDocument h)
    return ⟨s.path, p, c, restored, skipped⟩
  else return ⟨s.path, p, c, .empty, []⟩

/-- Opens the session, for which there has to be a file. -/
def openExisting (s : SessionSource) (h : Host) : Except Failure OpenSession :=
  if h.files.exists? s.path then s.openOrCreate h
  else .error (.unusable ("Session file not found: " ++ s.path))

end SessionSource

/-- Opens a session, with warnings about what could not be restored. -/
def opening (load : Host → Except Failure OpenSession) : Action OpenSession := do
  let o ← load (← .here)
  .warn o.warnings
  return o

end PrinterWiring.CommandLine
