import PrinterWiring.CommandLine.Outcome
import PrinterWiring.Text.Column

/-!
# Actions

A command is a chain of actions. Each looks at the files as the actions before it left them, and may print, replace a
file or fail; behind a failure nothing more happens.
-/

namespace PrinterWiring.CommandLine

/-- What a command finds: the files, and where preferences are kept if the command does not say. -/
structure Host where
  files : Files
  preferences : String

/-- The file of preferences of a command. -/
def Host.preferencesPath (h : Host) (given : Option String) : String := given.getD h.preferences

/-- A part of a command. -/
abbrev Action := ReaderT Host (ExceptT Failure (StateM Course))

namespace Action

variable {α : Type}

/-- What is found at this point. -/
def here : Action Host := do
  let h ← read
  return { h with files := (← get).files h.files }

/-- Prints a text. -/
def print (text : String) : Action Unit := modify fun c => { c with output := c.output ++ text }

/-- Prints warnings. -/
def warn (warnings : List String) : Action Unit :=
  modify fun c => { c with warnings := c.warnings ++ Text.unlines (warnings.map ("Warning: " ++ ·)) }

/-- Replaces a file. -/
def replace (r : Replacement) : Action Unit := modify fun c => { c with effects := c.effects ++ [r] }

/-- Carries an action out, after what happened before. -/
def perform (x : Action α) (h : Host) (before : Course) : Except Failure α × Course := (x.run h).run.run before

/-- The outcome of an action that is a whole command. -/
def outcome (x : Action Unit) (h : Host) : Outcome :=
  let (result, course) := x.perform h .begun
  { course with result := result }

end Action

end PrinterWiring.CommandLine
