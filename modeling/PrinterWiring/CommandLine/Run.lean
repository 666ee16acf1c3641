import PrinterWiring.CommandLine.Changes
import PrinterWiring.CommandLine.Rendering
import PrinterWiring.CommandLine.Usage

/-!
# Running commands

Arguments are read as a command, and the command is carried out on what it finds.
-/

namespace PrinterWiring.CommandLine

/-- The actions of a command. -/
def Command.action : Command → Action Unit
  | listBoards role json sources => CommandLine.listBoards role json sources
  | showBoard id category json sources => CommandLine.showBoard id category json sources
  | listFunctions category json => CommandLine.listFunctions category json
  | createSession mainboard toolboard force source => CommandLine.createSession mainboard toolboard force source
  | showSession json source => CommandLine.showSession json source
  | changeSession change source => change.run source
  | validate json strict source => CommandLine.validate json strict source
  | generate mode delivery source => CommandLine.generate mode delivery source
  | showPreferences json path => CommandLine.showPreferences json path
  | setPreference key v path => CommandLine.setPreference key v path

/-- Runs a command. -/
def Command.run (h : Host) (c : Command) : Outcome := c.action.outcome h

/-- The outcome of asking for help. What is printed then is left out. -/
def helped : Outcome := { Course.begun with result := .ok () }

/-- Runs the command that arguments are, or helps; misuse has no outcome. -/
def run? (h : Host) (arguments : List String) : Option Outcome :=
  match Command.ofArguments arguments with
  | .ok c => some (c.run h)
  | .error .help => some helped
  | .error .misuse => none

end PrinterWiring.CommandLine
