import PrinterWiring.Board.Basic
import PrinterWiring.Function.Slot
import PrinterWiring.PrinterConfig.Mode

/-!
# Commands

What can be asked for on the command line.
-/

namespace PrinterWiring.CommandLine

/-- Where preferences and further boards are looked for. -/
structure Sources where
  preferences : Option String
  catalog : Option String
deriving DecidableEq

/-- A session file, and where the boards come from. -/
structure SessionSource where
  path : String
  sources : Sources
deriving DecidableEq

/-- A change of a session. -/
inductive SessionChange where
  | set (key value : String)
  | unset (key : String)
  | selectBoard (role : Role) (board : Option String)
  /-- The port may be a full address or just an id on the board of a role. -/
  | assign (function : PrinterFunction) (port : String) (board : Role) (slot : Slot)
  | clear (function : PrinterFunction) (which : SlotChoice)
  | freePort (port : Address)
  | relocate (function : PrinterFunction) (role : Role)
  | setOptions (function : PrinterFunction) (invert pullup : Option Bool)
deriving DecidableEq

/-- What becomes of rendered files. -/
inductive Delivery where
  /-- They are written to a directory, if not the preferred one. -/
  | write (directory : Option String)
  | print
  | printJson
deriving DecidableEq

/-- A command. -/
inductive Command where
  | listBoards (role : Option Role) (json : Bool) (sources : Sources)
  | showBoard (board : String) (category : Option Category) (json : Bool) (sources : Sources)
  | listFunctions (category : Option Category) (json : Bool)
  | createSession (mainboard toolboard : Option String) (force : Bool) (source : SessionSource)
  | showSession (json : Bool) (source : SessionSource)
  | changeSession (change : SessionChange) (source : SessionSource)
  | validate (json strict : Bool) (source : SessionSource)
  | generate (mode : Option RenderMode) (delivery : Delivery) (source : SessionSource)
  | showPreferences (json : Bool) (path : Option String)
  | setPreference (key value : String) (path : Option String)
deriving DecidableEq

end PrinterWiring.CommandLine
