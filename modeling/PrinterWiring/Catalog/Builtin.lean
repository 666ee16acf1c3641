import PrinterWiring.Catalog.Basic

/-!
# Built-in boards

The boards that are known without any catalog file, as entries, and the catalog of them.
-/

namespace PrinterWiring.Builtin

/-- A port with a single pin and no label. -/
def plain (id : String) (pin : String) : SimpleEntry := ⟨id, none, pin⟩

/-- A port with a single pin and a label. -/
def labelled (id : String) (label : String) (pin : String) : SimpleEntry := ⟨id, some label, pin⟩

/-- Octopus v1.1. -/
def octopus : BoardEntry where
  id := "btt-octopus-v1.1"
  name := "Octopus v1.1"
  manufacturer := "BigTreeTech"
  role := .mainboard
  mcu := "stm32f446"
  ports :=
    { motor :=
        [⟨"MOTOR0", none, ⟨"PF13", "PF12", "PF14", some "PC4", some "PC4", some "PG6"⟩⟩,
         ⟨"MOTOR1", none, ⟨"PG0", "PG1", "PF15", some "PD11", some "PD11", some "PG9"⟩⟩,
         ⟨"MOTOR2", none, ⟨"PF11", "PG3", "PG5", some "PC6", some "PC6", some "PG10"⟩⟩,
         ⟨"MOTOR3", none, ⟨"PG4", "PC1", "PA0", some "PC7", some "PC7", some "PG11"⟩⟩,
         ⟨"MOTOR4", none, ⟨"PF9", "PF10", "PG2", some "PF2", some "PF2", some "PG12"⟩⟩,
         ⟨"MOTOR5", none, ⟨"PC13", "PF0", "PF1", some "PE4", some "PE4", some "PG13"⟩⟩,
         ⟨"MOTOR6", none, ⟨"PE2", "PE3", "PD4", some "PE1", some "PE1", some "PG14"⟩⟩,
         ⟨"MOTOR7", none, ⟨"PE6", "PA14", "PE0", some "PD3", some "PD3", some "PG15"⟩⟩]
      heater := [plain "HE0" "PA2", plain "HE1" "PA3", plain "HE2" "PB10", plain "HE3" "PB11",
                 labelled "BED" "HB" "PA1"]
      thermistor := [plain "TB" "PF3", plain "T0" "PF4", plain "T1" "PF5", plain "T2" "PF6",
                     plain "T3" "PF7"]
      fan := [plain "FAN0" "PA8", plain "FAN1" "PE5", plain "FAN2" "PD12", plain "FAN3" "PD13",
              plain "FAN4" "PD14", plain "FAN5" "PD15"]
      endstop := [plain "STOP0" "PG6", plain "STOP1" "PG9", plain "STOP2" "PG10",
                  plain "STOP3" "PG11", plain "STOP4" "PG12", plain "STOP5" "PG13",
                  plain "STOP6" "PG14", plain "STOP7" "PG15"]
      probe := [⟨"PROBE", some "BLTouch", "PB7", some "PB6"⟩]
      misc := [plain "PS_ON" "PE11", plain "RGB" "PB0"] }

/-- SKR Mini E3 V3.0. -/
def skrMiniE3 : BoardEntry where
  id := "btt-skr-mini-e3-v3"
  name := "SKR Mini E3 V3.0"
  manufacturer := "BigTreeTech"
  role := .mainboard
  mcu := "stm32g0b1"
  ports :=
    { motor :=
        [⟨"XM", none, ⟨"PB13", "PB12", "PB14", some "PC11", none, some "PC0"⟩⟩,
         ⟨"YM", none, ⟨"PB10", "PB2", "PB11", some "PC11", none, some "PC1"⟩⟩,
         ⟨"ZAM", none, ⟨"PB0", "PC5", "PB1", some "PC11", none, some "PC2"⟩⟩,
         ⟨"EM", none, ⟨"PB3", "PB4", "PD1", some "PC11", none, some "PC15"⟩⟩]
      heater := [plain "HE0" "PC8", plain "BED" "PC9"]
      thermistor := [plain "TH0" "PA0", plain "THB" "PC4"]
      fan := [plain "FAN0" "PC6", plain "FAN1" "PC7", plain "FAN2" "PB15"]
      endstop := [plain "X-STOP" "PC0", plain "Y-STOP" "PC1", plain "Z-STOP" "PC2",
                  plain "E0-STOP" "PC15"]
      probe := [⟨"PROBE", some "BLTouch", "PC14", some "PA1"⟩]
      misc := [plain "PS-ON" "PC13", plain "NEOPIXEL" "PA8"] }

/-- EBB36 CAN V1.2. -/
def ebb36 : BoardEntry where
  id := "btt-ebb36-v1.2"
  name := "EBB36 CAN V1.2"
  manufacturer := "BigTreeTech"
  role := .toolboard
  mcu := "stm32g0b1"
  ports :=
    { motor :=
        [⟨"MOTOR", none, ⟨"PD0", "PD1", "PD2", some "PA15", none, none⟩⟩]
      heater := [plain "HE0" "PB13"]
      thermistor := [plain "TH0" "PA3"]
      fan := [plain "FAN1" "PA0", plain "FAN2" "PA1"]
      endstop := [labelled "IO1" "PB5" "PB5", labelled "IO2" "PB6" "PB6", labelled "IO3" "PB7" "PB7"]
      probe := [⟨"PROBE", some "BLTouch", "PB8", some "PB9"⟩]
      misc := [plain "RGB" "PD3"] }

/-- Nitehawk-SB. -/
def nitehawk : BoardEntry where
  id := "ldo-nitehawk-sb"
  name := "Nitehawk-SB"
  manufacturer := "LDO"
  role := .toolboard
  mcu := "rp2040"
  ports :=
    { motor :=
        [⟨"MOTOR", none, ⟨"gpio23", "gpio24", "gpio25", some "gpio0", none, none⟩⟩]
      heater := [plain "HE0" "gpio9"]
      thermistor := [plain "TH0" "gpio26"]
      fan := [plain "FAN0" "gpio6", plain "FAN1" "gpio5"]
      endstop := [plain "X-STOP" "gpio13"]
      probe := [⟨"PROBE", none, "gpio10", none⟩]
      misc := [plain "LED" "gpio7"] }

/-- All the built-in boards. -/
def entries : List BoardEntry := [octopus, skrMiniE3, ebb36, nitehawk]

end PrinterWiring.Builtin

namespace PrinterWiring.Catalog

/-- The catalog of the built-in boards. All of them pass the checks, so that nothing is left out. -/
def builtin : Catalog :=
  match empty.merge Builtin.entries with
  | .ok c => c
  | .error _ => empty

end PrinterWiring.Catalog
