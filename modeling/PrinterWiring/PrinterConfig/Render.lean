import PrinterWiring.PrinterConfig.Lines
import PrinterWiring.PrinterConfig.Mode
import PrinterWiring.Report.Review

/-!
# Rendering a session

The configuration of a session is a list of blocks, one for each part of the printer, and each in the
file of the board that the part is on. Pins come from the session; where one is missing, `gap` stands
in its place. A strict rendering is the same list, and is refused if the review finds gaps.
-/

namespace PrinterWiring

/-- What stands for a pin that is missing. -/
def placeholderPin : String := "REPLACE_PIN"

namespace Session

open ConfigLine

/-- The board that a function is on: that of its primary port, or else where it was placed. -/
def homeRole (s : Session) (f : PrinterFunction) : Role :=
  ((s.port? ⟨f, .primary⟩).map (·.role)).getD ((s.locations.get? f).getD .mainboard)

/-- The file that the sections of a function stand in. -/
def fileOf (s : Session) (f : PrinterFunction) : ConfigFile :=
  if s.homeRole f = .toolboard ∧ s.hasBoard .toolboard then .toolboard else .printer

/-- A pin of the primary port of a function. -/
def pinOr (gap : String) (s : Session) (f : PrinterFunction) (name : PinName) : String :=
  (s.pin? ⟨f, .primary⟩ name).getD gap

/-- The size of the bed along X, in mm. -/
def bedX (s : Session) : Nat := (s.settings.bedSizeX.getD 200).toNat

/-- The size of the bed along Y, in mm. -/
def bedY (s : Session) : Nat := (s.settings.bedSizeY.getD 200).toNat

/-- The height of the Z axis, in mm. -/
def height (s : Session) : Nat := (s.settings.zHeight.getD 250).toNat

/-- An entry with a number. -/
def count (key : String) (n : Nat) : ConfigLine := entry key (toString n)

/-! ## Head of the files -/

/-- What the files begin with. -/
def titleBlocks (s : Session) : List ConfigBlock :=
  let mainboard := comment <| "mainboard: " ++ (s.board? .mainboard).getD "not selected"
  let generated := comment "Generated by klipconf"
  match s.board? .toolboard with
  | none => [⟨.printer, [generated, mainboard]⟩]
  | some id =>
    [⟨.printer, [generated, mainboard, comment ("toolboard: " ++ id), header ("include " ++ ConfigFile.toolboard.name)]⟩,
     ⟨.toolboard, [generated, comment ("toolboard: " ++ id)]⟩]

/-- The controllers. -/
def mcuBlocks (s : Session) : List ConfigBlock :=
  let serial := match s.settings.mcuSerial with
    | some serial => [entry "serial" serial]
    | none =>
      [comment "set mcu.serial to the board's /dev/serial/by-id path",
       entry "serial" "/dev/serial/by-id/REPLACE_SERIAL"]
  let uuid := match s.settings.toolboardUuid with
    | some uuid => [entry "canbus_uuid" uuid]
    | none =>
      [comment "set toolboard.canbus_uuid to the board's CAN uuid", entry "canbus_uuid" "REPLACE_UUID"]
  ⟨.printer, header "mcu" :: serial⟩
    :: (if s.hasBoard .toolboard then [⟨.toolboard, header "mcu toolboard" :: uuid⟩] else [])

/-- The printer as a whole. -/
def printerBlock (s : Session) : ConfigBlock :=
  let kinematics := match s.settings.kinematics with
    | some k => [entry "kinematics" k.name]
    | none =>
      [comment "printer.kinematics not set, using default", entry "kinematics" Kinematics.cartesian.name]
  ⟨.printer, header "printer" :: kinematics ++
    [count "max_velocity" s.settings.maxVelocity.toNat, count "max_accel" s.settings.maxAccel.toNat,
     count "max_z_velocity" 15, count "max_z_accel" 350, entry "square_corner_velocity" "5.0"]⟩

/-! ## Motors -/

/-- Whether the section of the driver of a motor carries its stall line. -/
def homesByStall (s : Session) : PrinterFunction → Bool
  | .stepper a => a.isPrimary && (match s.homingSource a.moves with
    | .stall _ => true
    | _ => false)
  | _ => false

/-- The entries of the stall line. -/
def stallLines (gap : String) (s : Session) (motor : PrinterFunction) (d : Driver) : List ConfigLine :=
  if s.homesByStall motor then
    [entry "diag_pin" (s.pinOr gap motor .diag),
     if d = .tmc2209 then count "driver_SGTHRS" 100 else count "driver_SGT" 0]
  else []

/-- The driver of a motor. -/
def driverLines (gap : String) (s : Session) (motor : PrinterFunction) : List ConfigLine :=
  match s.port? ⟨motor, .primary⟩ with
  | none => []
  | some port =>
    match s.driverProfile motor with
    | .basic => []
    | .unreachable d missing =>
      [comment s!"{d.name} driver not configured: {port.port} has no {missing.name} pin"]
    | .configured d busPin =>
      [header (d.name ++ " " ++ motor.key),
       entry (if d.bus = .spi then "cs_pin" else "uart_pin") busPin,
       entry "run_current" (Text.threePlaces s.settings.runCurrent.toNat)]
        ++ (if d = .tmc5160 then [entry "sense_resistor" "0.075"] else [])
        ++ [count "stealthchop_threshold" 0]
        ++ s.stallLines gap motor d

/-- The entry that names what an axis homes against. -/
def endstopLines (gap : String) (s : Session) (a : HomingAxis) : List ConfigLine :=
  match s.homingSource a with
  | .switch pin => [entry "endstop_pin" pin]
  | .stall d =>
    [entry "endstop_pin" (d.name ++ "_" ++ (PrinterFunction.stepper a.motor).key ++ ":virtual_endstop"),
     count "homing_retract_dist" 0]
  | .probe => [entry "endstop_pin" "probe:z_virtual_endstop"]
  | .missing => [entry "endstop_pin" (s.pinOr gap (.endstop a) .pin)]

/-- The range of an axis along the bed. -/
def rangeLines (size : Option UInt32) (max : Nat) : List ConfigLine :=
  [count "position_endstop" 0]
    ++ (if size.isNone then [comment "bed size not set, using default"] else [])
    ++ [count "position_max" max, count "homing_speed" 50]

/-- The range of an axis. -/
def travelLines (s : Session) : HomingAxis → List ConfigLine
  | .x => rangeLines s.settings.bedSizeX s.bedX
  | .y => rangeLines s.settings.bedSizeY s.bedY
  | .z =>
    [if s.homingSource .z = .probe then entry "position_min" "-5" else count "position_endstop" 0,
     count "position_max" s.height, count "homing_speed" 10]

/-- The step, direction and enable pins of a motor. -/
def motorPinLines (gap : String) (s : Session) (motor : PrinterFunction) : List ConfigLine :=
  [entry "step_pin" (s.pinOr gap motor .step), entry "dir_pin" (s.pinOr gap motor .dir),
   entry "enable_pin" (s.pinOr gap motor .enable), count "microsteps" s.settings.microsteps.toNat]

/-- A motor of an axis. Further motors are left out until they have a port. -/
def stepperBlocks (gap : String) (s : Session) (a : Axis) : List ConfigBlock :=
  let motor := PrinterFunction.stepper a
  if !a.isPrimary && !s.isAssigned motor then []
  else
    [⟨s.fileOf motor,
      header motor.key :: s.motorPinLines gap motor
        ++ [count "rotation_distance" (if a.moves = .z then 8 else 40)]
        ++ (if a.isPrimary then s.endstopLines gap a.moves ++ s.travelLines a.moves else [])
        ++ s.driverLines gap motor⟩]

/-- The extruder with its heater and thermistor. -/
def extruderBlock (gap : String) (s : Session) : ConfigBlock :=
  ⟨s.fileOf (if s.isAssigned .extruder then .extruder else .extruderHeater),
    header "extruder" :: s.motorPinLines gap .extruder
      ++ [entry "rotation_distance" "22.6789511", entry "nozzle_diameter" "0.400",
          entry "filament_diameter" "1.750", entry "heater_pin" (s.pinOr gap .extruderHeater .pin),
          entry "sensor_type" (s.settings.extruderSensor.getD standardSensor),
          entry "sensor_pin" (s.pinOr gap .extruderThermistor .pin), entry "control" "pid",
          entry "pid_Kp" "21.527", entry "pid_Ki" "1.063", entry "pid_Kd" "108.982",
          count "min_temp" 0, count "max_temp" 270]
      ++ s.driverLines gap .extruder⟩

/-! ## Bed, fans, probe, light -/

/-- The heated bed. -/
def bedBlocks (gap : String) (s : Session) : List ConfigBlock :=
  if s.isAssigned .bedHeater || s.isAssigned .bedThermistor then
    [⟨s.fileOf .bedHeater,
      [header "heater_bed", entry "heater_pin" (s.pinOr gap .bedHeater .pin),
       entry "sensor_type" (s.settings.bedSensor.getD standardSensor),
       entry "sensor_pin" (s.pinOr gap .bedThermistor .pin), entry "control" "watermark",
       count "min_temp" 0, count "max_temp" 120]⟩]
  else []

/-- The name of a fan in the configuration. -/
def fanName : FanKind → String
  | .partCooling => "part_fan"
  | .hotend => "hotend_fan"
  | .controller => "controller_fan"
  | .exhaust => "exhaust_fan"
  | .chamber => "chamber_fan"
  | .filter => "filter_fan"
  | .radiator => "radiator_fan"

/-- The header of the section of a fan. -/
def fanHeader (kind : FanKind) : String :=
  match kind with
  | .partCooling => "fan"
  | .hotend => "heater_fan " ++ fanName kind
  | .controller => "controller_fan " ++ fanName kind
  | .radiator => "heater_fan " ++ fanName kind
  | _ => "fan_generic " ++ fanName kind

/-- The entries that say when a fan runs. -/
def fanRuleLines : FanKind → List ConfigLine
  | .hotend => [entry "heater" "extruder", entry "heater_temp" "50.0"]
  | .radiator => [entry "heater" "extruder", entry "heater_temp" "50.0"]
  | .controller => [count "idle_timeout" 60]
  | _ => []

/-- A fan. Two ports are driven together as a group of pins. -/
def fanBlocks (gap : String) (s : Session) (kind : FanKind) : List ConfigBlock :=
  let f := PrinterFunction.fan kind
  if !s.isAssigned f then []
  else
    let primary := s.pinOr gap f .pin
    let pinGroup := fanName kind ++ "_pins"
    let pinLines := match s.pin? ⟨f, .secondary⟩ .pin with
      | some second =>
        [header ("multi_pin " ++ pinGroup), entry "pins" (primary ++ ", " ++ second),
         header (fanHeader kind), entry "pin" ("multi_pin:" ++ pinGroup)]
      | none => [header (fanHeader kind), entry "pin" primary]
    [⟨s.fileOf f, pinLines ++ fanRuleLines kind⟩]

/-- The probe, and what homing against it needs. -/
def probeBlocks (gap : String) (s : Session) : List ConfigBlock :=
  let homes := s.settings.zStop = .probe
  let sensor :=
    if s.settings.probeKind.getD .proximity = .bltouch then
      [header "bltouch", entry "sensor_pin" (s.pinOr gap .probe .signal),
       entry "control_pin" (s.pinOr gap .probe .servo)]
    else [header "probe", entry "pin" (s.pinOr gap .probe .signal)]
  let probing : ConfigBlock :=
    ⟨s.fileOf .probe, sensor ++
      [count "x_offset" 0, count "y_offset" 0, comment "calibrate with PROBE_CALIBRATE", count "z_offset" 0,
       count "speed" 5, count "samples" 3]⟩
  let leveling : ConfigBlock :=
    ⟨.printer,
      [header "safe_z_home", entry "home_xy_position" (toString (s.bedX / 2) ++ ", " ++ toString (s.bedY / 2)),
       count "z_hop" 10, header "bed_mesh", count "speed" 120, entry "mesh_min" "10, 10",
       entry "mesh_max" (toString (s.bedX - 10) ++ ", " ++ toString (s.bedY - 10)),
       entry "probe_count" "5, 5"]⟩
  if homes then [probing, leveling] else if s.isAssigned .probe then [probing] else []

/-- The case light. -/
def lightBlocks (gap : String) (s : Session) : List ConfigBlock :=
  if s.isAssigned .caseLight then
    [⟨s.fileOf .caseLight,
      [header "output_pin caselight", entry "pin" (s.pinOr gap .caseLight .pin), entry "pwm" "true",
       count "value" 0]⟩]
  else []

/-! ## The whole -/

/-- All blocks of the configuration, in order. -/
def configBlocks (gap : String) (s : Session) : List ConfigBlock :=
  s.titleBlocks ++ s.mcuBlocks ++ [s.printerBlock]
    ++ (Enumerated.all : List Axis).flatMap (s.stepperBlocks gap)
    ++ [s.extruderBlock gap] ++ s.bedBlocks gap
    ++ (Enumerated.all : List FanKind).flatMap (s.fanBlocks gap)
    ++ s.probeBlocks gap ++ s.lightBlocks gap

/-- The files of the configuration. The toolboard has one if a toolboard is selected. -/
def configFiles (s : Session) : List ConfigFile :=
  .printer :: (if s.hasBoard .toolboard then [.toolboard] else [])

/-- The files with their lines. -/
def configLines (gap : String) (s : Session) : List (ConfigFile × List ConfigLine) :=
  s.configFiles.map fun file => (file, linesOf file (s.configBlocks gap))

end Session

/-- A rendered configuration. -/
structure Rendered where
  /-- The files with their lines, in the order of their names. -/
  files : List (ConfigFile × List ConfigLine)
  /-- What the review found. -/
  warnings : List String
deriving DecidableEq

/-- The names and texts of the files. -/
def Rendered.texts (r : Rendered) : List (String × String) := r.files.map fun p => (p.1.name, configText p.2)

/-- Renders a session. -/
def Session.render (s : Session) (mode : RenderMode) : Except WiringError Rendered :=
  let report := s.review
  let rendered : Rendered := ⟨s.configLines placeholderPin, report.problems.map (·.message) ++ report.warnings⟩
  match mode, report.error? with
  | .strict, some e => .error e
  | _, _ => .ok rendered

end PrinterWiring
