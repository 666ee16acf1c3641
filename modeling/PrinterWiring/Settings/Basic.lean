import PrinterWiring.Settings.Choices
import PrinterWiring.Text.Numeral

/-!
# Settings

The scalar settings of a printer are a record with typed fields, and at the same time a store of
texts: each of the fifteen keys can be `set` from a text, `unset`, and read back with `get?`. Setting
checks the text first; a text that is refused changes nothing.
-/

namespace PrinterWiring

/-- The settings of a printer. -/
structure Settings where
  kinematics : Option Kinematics
  /-- Size of the bed along X, in mm. -/
  bedSizeX : Option UInt32
  /-- Size of the bed along Y, in mm. -/
  bedSizeY : Option UInt32
  /-- Usable height, in mm. -/
  zHeight : Option UInt32
  /-- In mm/s. -/
  maxVelocity : UInt32
  /-- In mm/s². -/
  maxAccel : UInt32
  driver : Option Driver
  /-- In mA. -/
  runCurrent : UInt32
  /-- Microsteps to a full step. -/
  microsteps : UInt16
  /-- Sensor type of the hotend. -/
  extruderSensor : Option String
  /-- Sensor type of the bed. -/
  bedSensor : Option String
  probeKind : Option ProbeKind
  zStop : ZStop
  /-- Device path of the mainboard. -/
  mcuSerial : Option String
  /-- CAN bus id of the toolboard. -/
  toolboardUuid : Option String
deriving DecidableEq

/-- A setting, in the order in which settings are stored and listed. -/
inductive SettingKey where
  | kinematics | bedSizeX | bedSizeY | zHeight | maxVelocity | maxAccel | driver | runCurrent | microsteps
  | extruderSensor | bedSensor | probeKind | zStop | mcuSerial | toolboardUuid
deriving DecidableEq

namespace SettingKey

instance : Enumerated SettingKey where
  all :=
    [kinematics, bedSizeX, bedSizeY, zHeight, maxVelocity, maxAccel, driver, runCurrent, microsteps,
     extruderSensor, bedSensor, probeKind, zStop, mcuSerial, toolboardUuid]
  nodup := by decide
  mem_all := by intro k; cases k <;> decide

/-- The key of a setting in files, arguments and answers. -/
def name : SettingKey → String
  | kinematics => "printer.kinematics"
  | bedSizeX => "printer.bed_size_x"
  | bedSizeY => "printer.bed_size_y"
  | zHeight => "printer.z_height"
  | maxVelocity => "printer.max_velocity"
  | maxAccel => "printer.max_accel"
  | driver => "stepper.driver"
  | runCurrent => "stepper.run_current_ma"
  | microsteps => "stepper.microsteps"
  | extruderSensor => "extruder.sensor_type"
  | bedSensor => "bed.sensor_type"
  | probeKind => "probe.type"
  | zStop => "z_endstop.source"
  | mcuSerial => "mcu.serial"
  | toolboardUuid => "toolboard.canbus_uuid"

/-- The setting with a key; keys are matched exactly. -/
def named? : String → Option SettingKey := Enumerated.named? name

/-- The keys of all settings. -/
def names : List String := (Enumerated.all : List SettingKey).map name

end SettingKey

/-- Why a text was refused as the value of a setting. -/
inductive SettingError where
  | badNumber (key : SettingKey) (given : String) (cause : Text.NumeralError)
  | zero (key : SettingKey)
  /-- A number of microsteps that no driver has. -/
  | badStep (key : SettingKey) (value : Nat)
  | badChoice (cause : NameError)
deriving DecidableEq

/-- The wording of a setting error, with its cause. -/
def SettingError.message : SettingError → String
  | .badNumber key given cause => s!"Invalid number for {key.name}: '{given}': {cause.message}"
  | .zero key => s!"{key.name} must be greater than zero"
  | .badStep key value => s!"{key.name} must be a power of two up to 256, got {value}"
  | .badChoice cause => cause.message

namespace Settings

/-- The settings that a new session has. -/
def standard : Settings where
  kinematics := none
  bedSizeX := none
  bedSizeY := none
  zHeight := none
  maxVelocity := 300
  maxAccel := 3000
  driver := none
  runCurrent := 800
  microsteps := 16
  extruderSensor := none
  bedSensor := none
  probeKind := none
  zStop := .switch
  mcuSerial := none
  toolboardUuid := none

/-- Reads a positive number of 32 bits. -/
def readPositive (key : SettingKey) (s : String) : Except SettingError UInt32 :=
  match Text.readNumeral UInt32.size s with
  | .error cause => .error (.badNumber key s cause)
  | .ok n => if n = 0 then .error (.zero key) else .ok (.ofNat n)

/-- The numbers of microsteps that drivers have. -/
def stepCounts : List Nat := [1, 2, 4, 8, 16, 32, 64, 128, 256]

/-- Reads a number of microsteps. -/
def readSteps (key : SettingKey) (s : String) : Except SettingError UInt16 :=
  match Text.readNumeral UInt16.size s with
  | .error cause => .error (.badNumber key s cause)
  | .ok n => if n ∈ stepCounts then .ok (.ofNat n) else .error (.badStep key n)

/-- Reads one of the choices of a setting. -/
def readChoice {α : Type} (parse : String → Except NameError α) (s : String) : Except SettingError α :=
  (parse s).mapError .badChoice

/-- Sets a trimmed text. An empty text leaves a free-text setting without a value. -/
def setTrimmed (s : Settings) (k : SettingKey) (v : String) : Except SettingError Settings :=
  match k with
  | .kinematics => (readChoice Kinematics.parse v).map fun a => { s with kinematics := some a }
  | .bedSizeX => (readPositive k v).map fun n => { s with bedSizeX := some n }
  | .bedSizeY => (readPositive k v).map fun n => { s with bedSizeY := some n }
  | .zHeight => (readPositive k v).map fun n => { s with zHeight := some n }
  | .maxVelocity => (readPositive k v).map fun n => { s with maxVelocity := n }
  | .maxAccel => (readPositive k v).map fun n => { s with maxAccel := n }
  | .driver => (readChoice Driver.parse v).map fun a => { s with driver := some a }
  | .runCurrent => (readPositive k v).map fun n => { s with runCurrent := n }
  | .microsteps => (readSteps k v).map fun n => { s with microsteps := n }
  | .extruderSensor => .ok { s with extruderSensor := Text.nonEmpty? v }
  | .bedSensor => .ok { s with bedSensor := Text.nonEmpty? v }
  | .probeKind => (readChoice ProbeKind.parse v).map fun a => { s with probeKind := some a }
  | .zStop => (readChoice ZStop.parse v).map fun a => { s with zStop := a }
  | .mcuSerial => .ok { s with mcuSerial := Text.nonEmpty? v }
  | .toolboardUuid => .ok { s with toolboardUuid := Text.nonEmpty? v }

/-- Sets a setting from a text; blanks around it do not count. -/
def set (s : Settings) (k : SettingKey) (v : String) : Except SettingError Settings := s.setTrimmed k (Text.trim v)

/-- Takes a setting back to what a new session has. -/
def unset (s : Settings) : SettingKey → Settings
  | .kinematics => { s with kinematics := none }
  | .bedSizeX => { s with bedSizeX := none }
  | .bedSizeY => { s with bedSizeY := none }
  | .zHeight => { s with zHeight := none }
  | .maxVelocity => { s with maxVelocity := standard.maxVelocity }
  | .maxAccel => { s with maxAccel := standard.maxAccel }
  | .driver => { s with driver := none }
  | .runCurrent => { s with runCurrent := standard.runCurrent }
  | .microsteps => { s with microsteps := standard.microsteps }
  | .extruderSensor => { s with extruderSensor := none }
  | .bedSensor => { s with bedSensor := none }
  | .probeKind => { s with probeKind := none }
  | .zStop => { s with zStop := standard.zStop }
  | .mcuSerial => { s with mcuSerial := none }
  | .toolboardUuid => { s with toolboardUuid := none }

/-- A number as the text of a setting. -/
def wordText (n : UInt32) : String := toString n.toNat

/-- The text of a setting, if it has a value. -/
def get? (s : Settings) : SettingKey → Option String
  | .kinematics => s.kinematics.map Kinematics.name
  | .bedSizeX => s.bedSizeX.map wordText
  | .bedSizeY => s.bedSizeY.map wordText
  | .zHeight => s.zHeight.map wordText
  | .maxVelocity => some (wordText s.maxVelocity)
  | .maxAccel => some (wordText s.maxAccel)
  | .driver => s.driver.map Driver.name
  | .runCurrent => some (wordText s.runCurrent)
  | .microsteps => some (toString s.microsteps.toNat)
  | .extruderSensor => s.extruderSensor
  | .bedSensor => s.bedSensor
  | .probeKind => s.probeKind.map ProbeKind.name
  | .zStop => some s.zStop.name
  | .mcuSerial => s.mcuSerial
  | .toolboardUuid => s.toolboardUuid

/-- The settings that have a value, with their texts. -/
def entries (s : Settings) : List (SettingKey × String) :=
  (Enumerated.all : List SettingKey).filterMap fun k => (s.get? k).map (k, ·)

/-- Sets a setting by its key; `none` if there is no such key. -/
def setNamed (s : Settings) (key v : String) : Except SettingError (Option Settings) :=
  match SettingKey.named? key with
  | none => .ok none
  | some k => (s.set k v).map some

/-- Unsets a setting by its key; `none` if there is no such key. -/
def unsetNamed (s : Settings) (key : String) : Option Settings := (SettingKey.named? key).map s.unset

/-- The text of a setting by its key. -/
def getNamed? (s : Settings) (key : String) : Option String := (SettingKey.named? key).bind s.get?

end Settings

end PrinterWiring
