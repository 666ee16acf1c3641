import PrinterWiring.Board.Role
import PrinterWiring.Function.Axis

/-!
# Printer functions

A printer function is a part of the printer that is wired to a port: a motor, a heater, a fan, a
switch. It has a key, the category of port it needs, and may allow a second port that is driven in
parallel.
-/

namespace PrinterWiring

/-- A part of the printer that uses a port. -/
inductive PrinterFunction where
  | stepper (axis : Axis)
  | extruder
  | extruderHeater
  | extruderThermistor
  | bedHeater
  | bedThermistor
  | fan (kind : FanKind)
  | probe
  | endstop (axis : HomingAxis)
  | caseLight
deriving DecidableEq

namespace PrinterFunction

instance : Enumerated PrinterFunction where
  all :=
    [stepper .x, stepper .x1, stepper .y, stepper .y1, stepper .z, stepper .z1, stepper .z2, stepper .z3,
     extruder, extruderHeater, extruderThermistor, bedHeater, bedThermistor,
     fan .partCooling, fan .hotend, fan .controller, fan .exhaust, fan .chamber, fan .filter, fan .radiator,
     probe, endstop .x, endstop .y, endstop .z, caseLight]
  nodup := by decide
  mem_all := by rintro (a | _ | _ | _ | _ | _ | f | _ | a | _) <;> (try cases a) <;> (try cases f) <;> decide

/-- The name of a function in files, arguments and answers. -/
def key : PrinterFunction → String
  | stepper .x => "stepper_x"
  | stepper .x1 => "stepper_x1"
  | stepper .y => "stepper_y"
  | stepper .y1 => "stepper_y1"
  | stepper .z => "stepper_z"
  | stepper .z1 => "stepper_z1"
  | stepper .z2 => "stepper_z2"
  | stepper .z3 => "stepper_z3"
  | extruder => "extruder"
  | extruderHeater => "extruder_heater"
  | extruderThermistor => "extruder_thermistor"
  | bedHeater => "bed_heater"
  | bedThermistor => "bed_thermistor"
  | fan .partCooling => "fan_part"
  | fan .hotend => "fan_hotend"
  | fan .controller => "fan_controller"
  | fan .exhaust => "fan_exhaust"
  | fan .chamber => "fan_chamber"
  | fan .filter => "fan_filter"
  | fan .radiator => "fan_radiator"
  | probe => "probe"
  | endstop .x => "endstop_x"
  | endstop .y => "endstop_y"
  | endstop .z => "endstop_z"
  | caseLight => "caselight"

/-- A short description. -/
def description : PrinterFunction → String
  | stepper a => if a.isPrimary then "Axis stepper motor" else "Additional axis stepper motor"
  | extruder => "Extruder stepper motor"
  | extruderHeater => "Hotend heater"
  | extruderThermistor => "Hotend thermistor"
  | bedHeater => "Heated bed"
  | bedThermistor => "Bed thermistor"
  | fan .partCooling => "Part cooling fan"
  | fan .hotend => "Hotend fan"
  | fan .controller => "Controller fan"
  | fan .exhaust => "Exhaust fan"
  | fan .chamber => "Chamber fan"
  | fan .filter => "Filter fan"
  | fan .radiator => "Radiator fan"
  | probe => "Bed probe"
  | endstop _ => "Endstop switch"
  | caseLight => "Case light"

/-- The category of the ports that the function can use. -/
def category : PrinterFunction → Category
  | stepper _ => .motor
  | extruder => .motor
  | extruderHeater => .heater
  | extruderThermistor => .thermistor
  | bedHeater => .heater
  | bedThermistor => .thermistor
  | fan _ => .fan
  | probe => .probe
  | endstop _ => .endstop
  | caseLight => .misc

/-- Whether the function may drive a second port in parallel. -/
def allowsSecondary : PrinterFunction → Bool
  | fan _ => true
  | _ => false

/-- Whether the function reads an input that needs the pull-up of the controller. -/
def needsPullup : PrinterFunction → Bool
  | endstop _ => true
  | probe => true
  | _ => false

/-- Other names of functions, each with the key it stands for. -/
def aliases : List (String × String) :=
  [("fan_part_cooling", "fan_part"), ("part_fan", "fan_part"), ("fan", "fan_part"),
   ("heater_bed", "bed_heater"), ("hotend_fan", "fan_hotend"), ("controller_fan", "fan_controller")]

/-- Reads a function by its key or another name, in any letter case. -/
def parse (s : String) : Except NameError PrinterFunction :=
  let wanted := Text.lower (Text.trim s)
  match Enumerated.named? key ((aliases.lookup wanted).getD wanted) with
  | some f => .ok f
  | none => .error (.function s)

/-- The function that a text names, if it names one. -/
def parse? (s : String) : Option PrinterFunction := (parse s).toOption

def toJson (f : PrinterFunction) : Json := .text f.key

/-- Reads a function from JSON, by any of its names. -/
def decoder : Decoder PrinterFunction := Decode.parsed parse?

/-- The functions of a category, or all of them. -/
def ofCategory (c : Option Category) : List PrinterFunction :=
  (Enumerated.all : List PrinterFunction).filter fun f => c.all (f.category == ·)

/-- What is told about a function in listings. -/
def summary (f : PrinterFunction) : Json := .obj
  [("key", .text f.key), ("category", f.category.toJson), ("multi_pin", .bool f.allowsSecondary),
   ("pullup", .bool f.needsPullup), ("description", .text f.description)]

end PrinterFunction

end PrinterWiring
