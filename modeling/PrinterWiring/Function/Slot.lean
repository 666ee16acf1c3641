import PrinterWiring.Function.Basic

/-!
# Slots and pin options

A function has a primary slot and, if it allows one, a secondary. A slot key names one slot of one
function. Pin options belong to the function and apply to both slots.
-/

namespace PrinterWiring

/-- The place of a port within its function. -/
inductive Slot where
  | primary
  | secondary
deriving DecidableEq

namespace Slot

instance : Enumerated Slot where
  all := [primary, secondary]
  nodup := by decide
  mem_all := by intro s; cases s <;> decide

def name : Slot → String
  | primary => "primary"
  | secondary => "secondary"

def toJson (s : Slot) : Json := .text s.name

def decoder : Decoder Slot := Decode.choice (Enumerated.named? name)

end Slot

/-- One slot of one function. -/
structure SlotKey where
  function : PrinterFunction
  slot : Slot
deriving DecidableEq

instance : Enumerated SlotKey where
  all := (Enumerated.all : List PrinterFunction).flatMap fun f => [⟨f, .primary⟩, ⟨f, .secondary⟩]
  nodup := by decide
  mem_all := by
    rintro ⟨f, s⟩
    simp only [List.mem_flatMap, Enumerated.mem_all, true_and]
    exact ⟨f, by cases s <;> simp⟩

/-- The slots that are to be cleared. -/
inductive SlotChoice where
  | primary
  | secondary
  | both
deriving DecidableEq

namespace SlotChoice

instance : Enumerated SlotChoice where
  all := [primary, secondary, both]
  nodup := by decide
  mem_all := by intro s; cases s <;> decide

def name : SlotChoice → String
  | primary => "primary"
  | secondary => "secondary"
  | both => "both"

/-- The slots that a choice clears. A secondary does not stay without its primary. -/
def slots : SlotChoice → List Slot
  | secondary => [.secondary]
  | primary => [.primary, .secondary]
  | both => [.primary, .secondary]

/-- Reads a choice, in any letter case. -/
def parse (s : String) : Except NameError SlotChoice :=
  let wanted := Text.lower (Text.trim s)
  if wanted = "primary" then .ok primary
  else if wanted = "secondary" then .ok secondary
  else if wanted ∈ ["both", "all"] then .ok both
  else .error (.slotChoice wanted)

def toJson (s : SlotChoice) : Json := .text s.name

def decoder : Decoder SlotChoice := Decode.choice (Enumerated.named? name)

end SlotChoice

/-- What the user chose about the pins of a function. -/
structure PinOptions where
  /-- The line is active when low. -/
  invert : Bool
  /-- No pull-up, even where the function would have one. -/
  suppressPullup : Bool
deriving DecidableEq

namespace PinOptions

/-- Neither option. -/
def standard : PinOptions := ⟨false, false⟩

/-- Whether neither option is set. -/
def isStandard (o : PinOptions) : Bool := o == standard

def toJson (o : PinOptions) : Json := .obj [("invert", .bool o.invert), ("suppress_pullup", .bool o.suppressPullup)]

def fields : RecordDecoder PinOptions :=
  PinOptions.mk <$> .withDefault "invert" Decode.bool false <*> .withDefault "suppress_pullup" Decode.bool false

/-- Reads pin options from JSON. -/
def decoder : Decoder PinOptions := fields.decode

end PinOptions

end PrinterWiring
