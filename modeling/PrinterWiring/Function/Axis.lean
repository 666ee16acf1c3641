import PrinterWiring.Json.Decode

/-!
# Axes and fans

The motors of a printer move three axes; an axis may have further motors. Fans are told apart by what
they cool.
-/

namespace PrinterWiring

/-- An axis that is homed. -/
inductive HomingAxis where
  | x | y | z
deriving DecidableEq

namespace HomingAxis

instance : Enumerated HomingAxis where
  all := [x, y, z]
  nodup := by decide
  mem_all := by intro a; cases a <;> decide

/-- The letter of an axis. -/
def name : HomingAxis → String
  | x => "X"
  | y => "Y"
  | z => "Z"

def toJson (a : HomingAxis) : Json := .text a.name

def decoder : Decoder HomingAxis := Decode.choice (Enumerated.named? name)

end HomingAxis

/-- A motor of an axis. -/
inductive Axis where
  | x | x1 | y | y1 | z | z1 | z2 | z3
deriving DecidableEq

namespace Axis

instance : Enumerated Axis where
  all := [x, x1, y, y1, z, z1, z2, z3]
  nodup := by decide
  mem_all := by intro a; cases a <;> decide

/-- The letter of the axis and the number of the motor. -/
def name : Axis → String
  | x => "X"
  | x1 => "X1"
  | y => "Y"
  | y1 => "Y1"
  | z => "Z"
  | z1 => "Z1"
  | z2 => "Z2"
  | z3 => "Z3"

/-- Whether this is the first motor of its axis. -/
def isPrimary : Axis → Bool
  | x => true
  | y => true
  | z => true
  | _ => false

/-- The axis that the motor moves. -/
def moves : Axis → HomingAxis
  | x => .x
  | x1 => .x
  | y => .y
  | y1 => .y
  | _ => .z

def toJson (a : Axis) : Json := .text a.name

def decoder : Decoder Axis := Decode.choice (Enumerated.named? name)

end Axis

/-- What a fan cools or moves air for. -/
inductive FanKind where
  | partCooling | hotend | controller | exhaust | chamber | filter | radiator
deriving DecidableEq

namespace FanKind

instance : Enumerated FanKind where
  all := [partCooling, hotend, controller, exhaust, chamber, filter, radiator]
  nodup := by decide
  mem_all := by intro f; cases f <;> decide

def name : FanKind → String
  | partCooling => "PartCooling"
  | hotend => "Hotend"
  | controller => "Controller"
  | exhaust => "Exhaust"
  | chamber => "Chamber"
  | filter => "Filter"
  | radiator => "Radiator"

def toJson (f : FanKind) : Json := .text f.name

def decoder : Decoder FanKind := Decode.choice (Enumerated.named? name)

end FanKind

end PrinterWiring
