import PrinterWiring.Json.Decode

/-!
# The pins of a port

A port wires one pin, a motor driver, or a probe. Its raw pins are looked up by name with
`PinSet.raw?`; `PinSet.wired` lists the names that have a pin.
-/

namespace PrinterWiring

/-- The name of a pin within its port. -/
inductive PinName where
  | step | dir | enable | uart | cs | diag | pin | signal | servo
deriving DecidableEq

namespace PinName

instance : Enumerated PinName where
  all := [step, dir, enable, uart, cs, diag, pin, signal, servo]
  nodup := by decide
  mem_all := by intro p; cases p <;> decide

/-- The spelling of a pin name. -/
def name : PinName → String
  | step => "step"
  | dir => "dir"
  | enable => "enable"
  | uart => "uart"
  | cs => "cs"
  | diag => "diag"
  | pin => "pin"
  | signal => "signal"
  | servo => "servo"

def toJson (p : PinName) : Json := .text p.name

def decoder : Decoder PinName := Decode.choice (Enumerated.named? name)

end PinName

/-- The pins of a socket for a stepper driver. -/
structure MotorPins where
  step : String
  dir : String
  enable : String
  /-- The line of drivers that are configured over UART. -/
  uart : Option String
  /-- The chip select of drivers that are configured over SPI. -/
  cs : Option String
  /-- The line on which the driver reports stalls. -/
  diag : Option String
deriving DecidableEq

/-- The raw pins of a port. -/
inductive PinSet where
  /-- A socket for a stepper driver. -/
  | motor (pins : MotorPins)
  /-- A port with a single pin. -/
  | simple (pin : String)
  /-- A probe connector; the servo line is for probes that are deployed. -/
  | probe (signal : String) (servo : Option String)
deriving DecidableEq

namespace PinSet

/-- The raw pin wired under a name. -/
def raw? : PinSet → PinName → Option String
  | motor m, .step => some m.step
  | motor m, .dir => some m.dir
  | motor m, .enable => some m.enable
  | motor m, .uart => m.uart
  | motor m, .cs => m.cs
  | motor m, .diag => m.diag
  | simple pin, .pin => some pin
  | probe signal _, .signal => some signal
  | probe _ servo, .servo => servo
  | _, _ => none

/-- The names that have a pin, in order. -/
def wired (pins : PinSet) : List PinName :=
  (Enumerated.all : List PinName).filter fun p => (pins.raw? p).isSome

/-- An object member for a pin that may be missing. -/
def memberIfWired (name : String) : Option String → List (String × Json)
  | none => []
  | some pin => [(name, .text pin)]

/-- The pins as JSON, an object that tells their kind. -/
def toJson : PinSet → Json
  | motor m => .obj <|
      [("kind", .text "motor"), ("step", .text m.step), ("dir", .text m.dir), ("enable", .text m.enable)]
        ++ memberIfWired "uart" m.uart ++ memberIfWired "cs" m.cs ++ memberIfWired "diag" m.diag
  | simple pin => .obj [("kind", .text "simple"), ("pin", .text pin)]
  | probe signal servo => .obj <|
      [("kind", .text "probe"), ("signal", .text signal)] ++ memberIfWired "servo" servo

/-- The fields of a motor socket. -/
def motorFields : RecordDecoder MotorPins :=
  MotorPins.mk <$> .required "step" Decode.text <*> .required "dir" Decode.text
    <*> .required "enable" Decode.text <*> .optional "uart" Decode.text <*> .optional "cs" Decode.text
    <*> .optional "diag" Decode.text

/-- The fields of a port with a single pin. -/
def simpleFields : RecordDecoder PinSet := simple <$> .required "pin" Decode.text

/-- The fields of a probe connector. -/
def probeFields : RecordDecoder PinSet :=
  probe <$> .required "signal" Decode.text <*> .optional "servo" Decode.text

/-- How deep lists and objects may be nested in pins. -/
def nestingLimit : Nat := 127

/-- The fields of pins of a kind. -/
def fieldsOf? : String → Option (RecordDecoder PinSet)
  | "motor" => some (motor <$> motorFields)
  | "simple" => some simpleFields
  | "probe" => some probeFields
  | _ => none

/-- Reads pins from JSON. In an object the kind may stand anywhere among the members, but only once; in a list it
comes first. What it decides about must be readable as a whole. -/
def decoder : Decoder PinSet
  | v@(.record members _) =>
    if !v.isReadable nestingLimit then .error .text
    else
      match (Json.named members).filter (·.1 == "kind") with
      | [(_, .text kind)] =>
        match fieldsOf? kind with
        | some fields => fields.decode (.obj ((Json.named members).filter (·.1 != "kind")))
        | none => .error .shape
      | _ => .error .shape
  | .list (.text kind :: items) whole =>
    match fieldsOf? kind with
    | none => .error .shape
    | some fields =>
      if !(Json.list items whole).isReadable nestingLimit then .error .text
      else do
        let (pins, more) ← fields.take true items
        if more.isEmpty then .ok pins else .error .shape
  | .list (v :: _) _ => .error (Decode.misfit v)
  | .list [] whole => .error (if whole then .shape else .text)
  | v => .error (Decode.misfit v)

end PinSet

end PrinterWiring
