import PrinterWiring.Json.Decode
import PrinterWiring.NameError
import PrinterWiring.Text.Blank
import PrinterWiring.Text.Fold

/-!
# Board roles and port categories

A printer has a mainboard and may have a toolboard on its toolhead. The role of a board decides how
its pins are written. Ports come in seven categories; a function can only use ports of its own.
-/

namespace PrinterWiring

/-- Where a board sits in the printer. -/
inductive Role where
  /-- The main controller. -/
  | mainboard
  /-- The board on the toolhead, with a controller of its own. -/
  | toolboard
deriving DecidableEq

namespace Role

instance : Enumerated Role where
  all := [mainboard, toolboard]
  nodup := by decide
  mem_all := by rintro (_ | _) <;> decide

/-- The name of a role in files, arguments and answers. -/
def name : Role → String
  | mainboard => "mainboard"
  | toolboard => "toolboard"

/-- The controller that the pins of this role are qualified with. -/
def controller? : Role → Option String
  | mainboard => none
  | toolboard => some "toolboard"

/-- Reads a role, also by one of its short names. -/
def parse (s : String) : Except NameError Role :=
  let wanted := Text.lower (Text.trim s)
  if wanted ∈ ["mainboard", "main", "mcu"] then .ok mainboard
  else if wanted ∈ ["toolboard", "tool", "toolhead"] then .ok toolboard
  else .error (.role wanted)

def toJson (r : Role) : Json := .text r.name

def decoder : Decoder Role := Decode.choice (Enumerated.named? name)

end Role

/-- What a port is made for. -/
inductive Category where
  | motor | heater | thermistor | fan | endstop | probe | misc
deriving DecidableEq

namespace Category

instance : Enumerated Category where
  all := [motor, heater, thermistor, fan, endstop, probe, misc]
  nodup := by decide
  mem_all := by intro c; cases c <;> decide

/-- The name of a category in files, arguments and answers. -/
def name : Category → String
  | motor => "motor"
  | heater => "heater"
  | thermistor => "thermistor"
  | fan => "fan"
  | endstop => "endstop"
  | probe => "probe"
  | misc => "misc"

/-- Reads a category, in any letter case. -/
def parse (s : String) : Except NameError Category :=
  match (Enumerated.all : List Category).find? (Text.sameFolded ·.name (Text.trim s)) with
  | some c => .ok c
  | none => .error (.category s)

def toJson (c : Category) : Json := .text c.name

def decoder : Decoder Category := Decode.choice (Enumerated.named? name)

end Category

end PrinterWiring
