import PrinterWiring.Report.Basic
import PrinterWiring.Session.Motion
import PrinterWiring.Session.Registry

/-!
# Reviewing a session

A review finds the gaps of a session, each of which is a problem of its report, and the cautions, each
of which is a warning. A session without gaps can be rendered strictly.
-/

namespace PrinterWiring

/-- The functions that every printer needs. -/
def requiredFunctions : List PrinterFunction :=
  [.stepper .x, .stepper .y, .stepper .z, .extruder, .extruderHeater, .extruderThermistor]

/-- Something that a session needs and does not have. -/
inductive Gap where
  | mainboard
  /-- A setting, by its short name. -/
  | setting (name : String)
  /-- A port for a function. -/
  | port (function : PrinterFunction)
  /-- A way for an axis to home. -/
  | homing (axis : HomingAxis)
  /-- A port for the probe that the Z axis homes against. -/
  | homingProbe
  /-- A servo pin for the probe on a port. -/
  | servo (kind : ProbeKind) (port : Address)
deriving DecidableEq

/-- That a function has no port. -/
def noPortMessage (f : PrinterFunction) : String := s!"{f.description} ({f.key}) has no port assigned"

/-- The problem that a gap is. -/
def Gap.toProblem : Gap → Problem
  | mainboard =>
    ⟨.missingField, "board", none, "No mainboard selected",
      some "Select one with `klipconf select-board mainboard <id>`"⟩
  | setting name => ⟨.missingField, name, none, s!"Printer setting '{name}' is not set", none⟩
  | port f => ⟨.missingField, f.key, none, noPortMessage f, none⟩
  | homing a =>
    ⟨.missingField, (PrinterFunction.endstop a).key, none, noPortMessage (.endstop a),
      some "Assign an endstop port, or use a stallguard capable driver with a DIAG pin"⟩
  | homingProbe =>
    ⟨.missingField, PrinterFunction.probe.key, none, noPortMessage .probe,
      some "z_endstop.source is 'probe' but no probe port is assigned"⟩
  | servo kind address =>
    ⟨.pinNotWired, PrinterFunction.probe.key, some (address, .servo),
      s!"{kind.name} needs a servo pin, but the port does not wire one",
      some "Pick a probe port with a servo pin or change probe.type"⟩

/-- The sensor type of a thermistor for which none is set. -/
def standardSensor : String := "Generic 3950"

/-- Something about a session that the user should know. -/
inductive Caution where
  | serialUnset
  /-- The sensor type with this key is not set. -/
  | sensorUnset (key : SettingKey)
  /-- There is a probe and no kind of probe. -/
  | probeKindUnset
  /-- There is a kind of probe and no probe. -/
  | probeSkipped (kind : ProbeKind)
  /-- The driver of a motor cannot be configured. -/
  | driverUnreachable (motor : PrinterFunction) (driver : Driver) (missing : PinName) (port : Address)
  | uuidUnset
  | toolboardUnused
  | contested (port : Address)
deriving DecidableEq

def Caution.message : Caution → String
  | serialUnset => "mcu.serial is not set; edit the serial line of [mcu] before starting Klipper"
  | sensorUnset key => s!"{key.name} is not set; using '{standardSensor}'"
  | probeKindUnset => s!"probe.type is not set; rendering a generic [probe] ({ProbeKind.proximity.name})"
  | probeSkipped kind => s!"probe.type is '{kind.name}' but no probe port is assigned; probe section skipped"
  | driverUnreachable motor driver missing port =>
    s!"{motor.key}: {driver.name} needs a {missing.name} pin but {port.toText} has none; using a basic driver profile"
  | uuidUnset => "toolboard.canbus_uuid is not set; edit [mcu toolboard] before starting Klipper"
  | toolboardUnused => "A toolboard is selected but no function uses its ports"
  | contested port => s!"port {port.toText} is claimed by more than one function"

namespace Session

/-- A gap, if something is missing. -/
def gapIf (missing : Bool) (g : Gap) : List Gap := if missing then [g] else []

/-- A caution, if it applies. -/
def cautionIf (applies : Bool) (c : Caution) : List Caution := if applies then [c] else []

/-! ## Gaps -/

/-- Whether a board is selected for a role. -/
def hasBoard (s : Session) (r : Role) : Bool := s.boards.contains r

/-- The gaps among board and settings. -/
def settingGaps (s : Session) : List Gap :=
  gapIf (!s.hasBoard .mainboard) .mainboard
    ++ gapIf s.settings.kinematics.isNone (.setting "kinematics")
    ++ gapIf s.settings.bedSizeX.isNone (.setting "bed_size_x")
    ++ gapIf s.settings.bedSizeY.isNone (.setting "bed_size_y")

/-- The gaps among the functions that a printer needs; heater and thermistor of the bed need each
other. -/
def functionGaps (s : Session) : List Gap :=
  requiredFunctions.flatMap (fun f => gapIf (!s.isAssigned f) (.port f))
    ++ gapIf (s.isAssigned .bedHeater && !s.isAssigned .bedThermistor) (.port .bedThermistor)
    ++ gapIf (s.isAssigned .bedThermistor && !s.isAssigned .bedHeater) (.port .bedHeater)

/-- The gap of an axis that cannot home. -/
def homingGaps (s : Session) (a : HomingAxis) : List Gap :=
  match s.homingSource a with
  | .missing => [.homing a]
  | .probe => gapIf (!s.isAssigned .probe) .homingProbe
  | _ => []

/-- The gap of a probe that needs a servo and has none. -/
def servoGaps (s : Session) : List Gap :=
  match s.port? ⟨.probe, .primary⟩, s.settings.probeKind with
  | some port, some kind =>
    gapIf (kind.needsServo && (s.pin? ⟨.probe, .primary⟩ .servo).isNone) (.servo kind port)
  | _, _ => []

/-- Everything that a session needs and does not have. -/
def gaps (s : Session) : List Gap :=
  s.settingGaps ++ s.functionGaps ++ (Enumerated.all : List HomingAxis).flatMap s.homingGaps ++ s.servoGaps

/-! ## Cautions -/

/-- The cautions about settings. -/
def settingCautions (s : Session) : List Caution :=
  cautionIf (s.settings.mcuSerial.isNone && s.hasBoard .mainboard) .serialUnset
    ++ cautionIf (s.isAssigned .extruderThermistor && s.settings.extruderSensor.isNone) (.sensorUnset .extruderSensor)
    ++ cautionIf (s.isAssigned .bedThermistor && s.settings.bedSensor.isNone) (.sensorUnset .bedSensor)

/-- The cautions about the probe. -/
def probeCautions (s : Session) : List Caution :=
  match s.isAssigned .probe, s.settings.probeKind with
  | true, none => [.probeKindUnset]
  | false, some kind => [.probeSkipped kind]
  | _, _ => []

/-- Whether a function is a motor. -/
def isMotor : PrinterFunction → Bool
  | .stepper _ => true
  | .extruder => true
  | _ => false

/-- The caution about the motor of an assignment. -/
def driverCautions (s : Session) (a : Assignment) : List Caution :=
  if isMotor a.function && a.slot = .primary then
    match s.driverProfile a.function with
    | .unreachable d missing => [.driverUnreachable a.function d missing a.port]
    | _ => []
  else []

/-- The cautions about the toolboard. -/
def toolboardCautions (s : Session) : List Caution :=
  if s.hasBoard .toolboard then
    cautionIf s.settings.toolboardUuid.isNone .uuidUnset
      ++ cautionIf (!s.assignments.any (·.port.role = .toolboard)) .toolboardUnused
  else []

/-- Everything about a session that the user should know. -/
def cautions (s : Session) : List Caution :=
  s.settingCautions ++ s.probeCautions ++ s.assignments.flatMap s.driverCautions ++ s.toolboardCautions
    ++ s.registry.conflicts.map .contested

/-- The report of a session. -/
def review (s : Session) : Report := ⟨s.gaps.map Gap.toProblem, s.cautions.map Caution.message⟩

end Session

end PrinterWiring
