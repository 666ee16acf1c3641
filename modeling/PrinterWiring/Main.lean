import PrinterWiring.CommandLine.Survey

/-!
# The program

Finds the files that a command looks at, runs the command, prints what it prints, and replaces the files
that it replaces. All else is decided by the command.
-/

namespace PrinterWiring.CommandLine

/-- The directory of the preferences of a user. -/
def preferencesDirectory : IO String := do
  let given (name : String) : IO (Option String) := return (← IO.getEnv name).bind Text.nonEmpty?
  if let some directory ← given "KLIPCONF_CONFIG_DIR" then return directory
  let home := (← given "HOME").getD "."
  let shared := ((← given "XDG_CONFIG_HOME").filter (·.startsWith "/")).getD (Path.join home ".config")
  return Path.join shared "KlipperConfigurator"

/-- Adds what is at a path. What is there and cannot be read as a file stands for a directory; a path that leads
through a file could not even be opened, so that its error names it. -/
def look (found : Files) (path : String) : IO Files := do
  match ← (IO.FS.readFile path).toBaseIO with
  | .ok text => return found.write path text
  | .error (.noFileOrDirectory ..) => return found
  | .error (.inappropriateType (some _) ..) => return found
  | .error _ => return found.addDirectory path

/-- Finds the files that a command looks at. -/
def survey (c : Command) (preferences : String) : IO Host := do
  let first ← (c.paths ⟨.empty, preferences⟩).foldlM look .empty
  return ⟨← (c.paths ⟨first, preferences⟩).foldlM look first, preferences⟩

/-- Replaces a file on disk. -/
def carryOut (r : Replacement) : IO Unit := do
  if let some directory := Path.directory? r.target then IO.FS.createDirAll directory
  IO.FS.writeFile r.temporary r.text
  IO.FS.rename r.temporary r.target

/-- Prints an outcome and carries its effects out. -/
def Outcome.conclude (o : Outcome) : IO UInt32 := do
  IO.eprint o.warnings
  o.effects.forM carryOut
  IO.print o.output
  if let .error f := o.result then
    IO.eprintln ("Error: " ++ f.message)
  return .ofNat o.exitCode

end PrinterWiring.CommandLine

open PrinterWiring.CommandLine in
/-- Runs the command that the arguments are. -/
def main (arguments : List String) : IO UInt32 := do
  match Command.ofArguments arguments with
  | .ok c =>
    let host ← survey c (PrinterWiring.Path.join (← preferencesDirectory) "config.toml")
    (c.run host).conclude
  | .error .help => helped.conclude
  | .error .misuse =>
    IO.eprintln "Error: the arguments are no command"
    return 2
