import PrinterWiring.Settings.Basic

/-!
# Settings as JSON

All fields are written, with `null` for what has no value. Reading accepts any number that fits a
field; the checks of `Settings.set` are not made.
-/

namespace PrinterWiring.Settings

/-- A number of 32 bits as JSON. -/
def wordJson (n : UInt32) : Json := .nat n.toNat

def toJson (s : Settings) : Json := .obj
  [("kinematics", .ofOption Kinematics.toJson s.kinematics),
   ("bed_size_x", .ofOption wordJson s.bedSizeX),
   ("bed_size_y", .ofOption wordJson s.bedSizeY),
   ("z_height", .ofOption wordJson s.zHeight),
   ("max_velocity", wordJson s.maxVelocity),
   ("max_accel", wordJson s.maxAccel),
   ("driver", .ofOption Driver.toJson s.driver),
   ("run_current_ma", wordJson s.runCurrent),
   ("microsteps", .nat s.microsteps.toNat),
   ("extruder_sensor_type", .ofOption .text s.extruderSensor),
   ("bed_sensor_type", .ofOption .text s.bedSensor),
   ("probe_type", .ofOption ProbeKind.toJson s.probeKind),
   ("z_endstop", s.zStop.toJson),
   ("mcu_serial", .ofOption .text s.mcuSerial),
   ("toolboard_canbus_uuid", .ofOption .text s.toolboardUuid)]

def fields : RecordDecoder Settings :=
  Settings.mk <$> .optional "kinematics" Kinematics.decoder
    <*> .optional "bed_size_x" Decode.word32
    <*> .optional "bed_size_y" Decode.word32
    <*> .optional "z_height" Decode.word32
    <*> .withDefault "max_velocity" Decode.word32 standard.maxVelocity
    <*> .withDefault "max_accel" Decode.word32 standard.maxAccel
    <*> .optional "driver" Driver.decoder
    <*> .withDefault "run_current_ma" Decode.word32 standard.runCurrent
    <*> .withDefault "microsteps" Decode.word16 standard.microsteps
    <*> .optional "extruder_sensor_type" Decode.text
    <*> .optional "bed_sensor_type" Decode.text
    <*> .optional "probe_type" ProbeKind.decoder
    <*> .withDefault "z_endstop" ZStop.decoder standard.zStop
    <*> .optional "mcu_serial" Decode.text
    <*> .optional "toolboard_canbus_uuid" Decode.text

/-- Reads settings from JSON. -/
def decoder : Decoder Settings := fields.decode

end PrinterWiring.Settings
