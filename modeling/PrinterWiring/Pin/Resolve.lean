import PrinterWiring.Error

/-!
# Resolved pins

A raw pin is written for a printer configuration as `[^][!][controller:]RAW`: the pull-up mark first,
then the inversion mark, then the name of the controller if the board is not the main one. Which
marks a pin gets follows from the function that uses the port and from the function's options.
`resolve` does this for all the pins of a port that are wired.
-/

namespace PrinterWiring

/-- The marks in front of a pin. -/
structure Modifiers where
  /-- Turn on the pull-up, `^`. -/
  pullup : Bool
  /-- Invert the line, `!`. -/
  invert : Bool
deriving DecidableEq

/-- No marks. -/
def Modifiers.plain : Modifiers := ⟨false, false⟩

/-- The text of a pin: marks, controller, raw pin. -/
def pinText (role : Role) (raw : String) (m : Modifiers) : String :=
  (if m.pullup then "^" else "") ++ (if m.invert then "!" else "")
    ++ (match role.controller? with
        | some controller => controller ++ ":"
        | none => "")
    ++ raw

/-- The pins of a port as they are written in a printer configuration. -/
abbrev ResolvedPins := Table PinName String

namespace ResolvedPins

/-- Resolved pins as JSON, an object from pin names to texts. -/
def pinsJson (pins : ResolvedPins) : Json := .obj (pins.toList.map fun p => (p.1.name, .text p.2))

/-- Resolved pins as JSON. -/
def toJson (pins : ResolvedPins) : Json := .obj [("pins", pinsJson pins)]

def fields : RecordDecoder ResolvedPins := .required "pins" (Decode.table (Enumerated.named? PinName.name) Decode.text)

/-- Reads resolved pins from JSON. -/
def decoder : Decoder ResolvedPins := fields.decode

end ResolvedPins

/-- A pin that a function reads from its port. -/
structure PinRequest where
  name : PinName
  modifiers : Modifiers
  /-- Whether the function cannot do without the pin. -/
  required : Bool
deriving DecidableEq

/-- What a function reads from a port with the given pins. The enable line of a driver is active when
low; its stall line needs a pull-up. -/
def pinRequests (f : PrinterFunction) (pins : PinSet) (o : PinOptions) : List PinRequest :=
  let main : Modifiers := ⟨f.needsPullup && !o.suppressPullup, o.invert⟩
  match pins with
  | .motor _ =>
    [⟨.step, .plain, true⟩, ⟨.dir, ⟨false, o.invert⟩, true⟩, ⟨.enable, ⟨false, true⟩, true⟩,
     ⟨.uart, .plain, false⟩, ⟨.cs, .plain, false⟩, ⟨.diag, ⟨true, false⟩, false⟩]
  | .probe _ _ => [⟨.signal, main, true⟩, ⟨.servo, .plain, false⟩]
  | .simple _ => [⟨.pin, main, true⟩]

/-- One pin of a port. -/
def Port.resolvePin (p : Port) (role : Role) (name : PinName) (m : Modifiers) : Except WiringError String :=
  match p.pins.raw? name with
  | some raw => .ok (pinText role raw m)
  | none => .error (.pinNotWired p.id name)

/-- All the pins that a function reads from a port. The first that is required and not wired is an
error; others that are not wired are left out. -/
def Port.resolve (p : Port) (f : PrinterFunction) (role : Role) (o : PinOptions) : Except WiringError ResolvedPins :=
  (pinRequests f p.pins o).foldlM (fun pins r =>
    match p.resolvePin role r.name r.modifiers with
    | .ok text => .ok (pins.insert r.name text)
    | .error e => if r.required then .error e else .ok pins) Table.empty

end PrinterWiring
