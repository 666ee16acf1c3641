import PrinterWiring.Storage.Files

/-!
# Outcomes

What happens in the course of a command, and how it ends. What a command did before it failed stays done: whether a
command that fails leaves the files alone is decided by the order in which it does things.
-/

namespace PrinterWiring.CommandLine

/-- How a failed command ends. -/
inductive Ending where
  /-- What was asked for was refused. -/
  | refused
  /-- A file could not be used. -/
  | unusable
deriving DecidableEq

/-- The exit code of an ending. -/
def Ending.code : Ending → Nat
  | refused => 1
  | unusable => 2

/-- Why a command failed. -/
structure Failure where
  ending : Ending
  message : String
deriving DecidableEq

/-- The failure of a command that was refused. -/
def Failure.refused (message : String) : Failure := ⟨.refused, message⟩

/-- The failure of a command that could not use a file. -/
def Failure.unusable (message : String) : Failure := ⟨.unusable, message⟩

/-- What happened in the course of a command: what it printed, and the files it replaced, one after the other. -/
structure Course where
  output : String
  warnings : String
  effects : List Replacement

namespace Course

/-- Nothing happened yet. -/
def begun : Course := ⟨"", "", []⟩

/-- The files at this point. -/
def files (before : Files) (c : Course) : Files := c.effects.foldl Files.replace before

end Course

/-- The outcome of a command: all that happened, and the failure that it ended with, if it failed. -/
structure Outcome extends Course where
  result : Except Failure Unit

/-- The exit code of a command. -/
def Outcome.exitCode (o : Outcome) : Nat :=
  match o.result with
  | .ok _ => 0
  | .error f => f.ending.code

end PrinterWiring.CommandLine
