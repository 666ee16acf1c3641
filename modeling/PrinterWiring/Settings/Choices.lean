import PrinterWiring.Json.Decode
import PrinterWiring.NameError
import PrinterWiring.Text.Blank
import PrinterWiring.Text.Fold

/-!
# Choices among settings

The settings with a fixed list of values: how the printer moves, which drivers and which probe it
has, and what stops its Z axis.
-/

namespace PrinterWiring

/-- Reads one of a list of named values, in any letter case. -/
def chooseAmong {α : Type} [DecidableEq α] [Enumerated α] (name : α → String) (s : String) : Except NameError α :=
  match (Enumerated.all : List α).find? fun a => Text.sameFolded (name a) (Text.trim s) with
  | some a => .ok a
  | none => .error (.notAmong (Text.trim s) ((Enumerated.all : List α).map name))

/-- How the motors of the printer move the tool. -/
inductive Kinematics where
  | cartesian | corexy | corexz
deriving DecidableEq

namespace Kinematics

instance : Enumerated Kinematics where
  all := [cartesian, corexy, corexz]
  nodup := by decide
  mem_all := by intro k; cases k <;> decide

/-- The name that a printer configuration uses. -/
def name : Kinematics → String
  | cartesian => "cartesian"
  | corexy => "corexy"
  | corexz => "corexz"

/-- Reads kinematics. -/
def parse : String → Except NameError Kinematics := chooseAmong name

def toJson (k : Kinematics) : Json := .text k.name

/-- Reads kinematics from JSON. -/
def decoder : Decoder Kinematics := Decode.choice (Enumerated.named? name)

end Kinematics

/-- How a stepper driver is configured. -/
inductive DriverBus where
  /-- Not at all; it only steps. -/
  | standalone
  | uart
  | spi
deriving DecidableEq

def DriverBus.name : DriverBus → String
  | standalone => "standalone"
  | uart => "uart"
  | spi => "spi"

/-- A model of stepper driver. -/
inductive Driver where
  | a4988 | tmc2208 | tmc2209 | tmc2130 | tmc5160
deriving DecidableEq

namespace Driver

instance : Enumerated Driver where
  all := [a4988, tmc2208, tmc2209, tmc2130, tmc5160]
  nodup := by decide
  mem_all := by intro d; cases d <;> decide

/-- The name that a printer configuration uses. -/
def name : Driver → String
  | a4988 => "a4988"
  | tmc2208 => "tmc2208"
  | tmc2209 => "tmc2209"
  | tmc2130 => "tmc2130"
  | tmc5160 => "tmc5160"

/-- The bus over which the driver is configured. -/
def bus : Driver → DriverBus
  | a4988 => .standalone
  | tmc2208 => .uart
  | tmc2209 => .uart
  | tmc2130 => .spi
  | tmc5160 => .spi

/-- Whether the driver can report a stall, so that an axis can home without a switch. -/
def reportsStalls : Driver → Bool
  | a4988 => false
  | tmc2208 => false
  | _ => true

/-- Reads a driver. -/
def parse : String → Except NameError Driver := chooseAmong name

def toJson (d : Driver) : Json := .text d.name

def decoder : Decoder Driver := Decode.choice (Enumerated.named? name)

end Driver

/-- A kind of bed probe. -/
inductive ProbeKind where
  /-- An inductive proximity sensor. -/
  | proximity
  | bltouch | klicky | tap
deriving DecidableEq

namespace ProbeKind

instance : Enumerated ProbeKind where
  all := [proximity, bltouch, klicky, tap]
  nodup := by decide
  mem_all := by intro p; cases p <;> decide

def name : ProbeKind → String
  | proximity => "inductive"
  | bltouch => "bltouch"
  | klicky => "klicky"
  | tap => "tap"

/-- Whether the probe is deployed by a servo line. -/
def needsServo : ProbeKind → Bool
  | bltouch => true
  | _ => false

/-- Reads a kind of probe. -/
def parse : String → Except NameError ProbeKind := chooseAmong name

def toJson (p : ProbeKind) : Json := .text p.name

def decoder : Decoder ProbeKind := Decode.choice (Enumerated.named? name)

end ProbeKind

/-- What stops the Z axis when it homes. -/
inductive ZStop where
  | switch
  | probe
deriving DecidableEq

namespace ZStop

instance : Enumerated ZStop where
  all := [switch, probe]
  nodup := by decide
  mem_all := by intro z; cases z <;> decide

def name : ZStop → String
  | switch => "switch"
  | probe => "probe"

/-- Reads a Z stop. -/
def parse : String → Except NameError ZStop := chooseAmong name

def toJson (z : ZStop) : Json := .text z.name

def decoder : Decoder ZStop := Decode.choice (Enumerated.named? name)

end ZStop

end PrinterWiring
