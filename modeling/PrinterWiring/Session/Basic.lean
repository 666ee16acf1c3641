import PrinterWiring.Pin.Resolve
import PrinterWiring.Settings.Json

/-!
# Sessions

A session is one configuration in the making: the board selected for each role, the port wired to
each slot together with its resolved pins, the pin options and the location of each function, and
the settings.
-/

namespace PrinterWiring

/-- What is wired to a slot. -/
structure Wiring where
  port : Address
  /-- The category of the port when it was wired. -/
  category : Category
  /-- The pins of the port, resolved for the function. -/
  pins : ResolvedPins
deriving DecidableEq

/-- A configuration in the making. -/
structure Session where
  /-- The ids of the selected boards. -/
  boards : Table Role String
  wiring : Table SlotKey Wiring
  /-- The pin options that are not standard. -/
  options : Table PrinterFunction PinOptions
  /-- Where functions were placed. -/
  locations : Table PrinterFunction Role
  settings : Settings
deriving DecidableEq

/-- A slot and the port that it has. -/
structure Assignment where
  function : PrinterFunction
  slot : Slot
  port : Address
  category : Category
deriving DecidableEq

namespace Assignment

/-- The slot of an assignment. -/
def key (a : Assignment) : SlotKey := ⟨a.function, a.slot⟩

def toJson (a : Assignment) : Json := .obj
  [("function", a.function.toJson), ("slot", a.slot.toJson), ("port", a.port.toJson), ("category", a.category.toJson)]

def fields : RecordDecoder Assignment :=
  Assignment.mk <$> .required "function" PrinterFunction.decoder <*> .required "slot" Slot.decoder
    <*> .required "port" Address.decoder <*> .required "category" Category.decoder

def decoder : Decoder Assignment := fields.decode

end Assignment

namespace Session

/-- The session in which nothing has been done. -/
def empty : Session := ⟨.empty, .empty, .empty, .empty, .standard⟩

/-- The id of the board selected for a role. -/
def board? (s : Session) (r : Role) : Option String := s.boards.get? r

/-- The port of a slot. -/
def port? (s : Session) (k : SlotKey) : Option Address := (s.wiring.get? k).map (·.port)

/-- The resolved pins of a slot. -/
def pins? (s : Session) (k : SlotKey) : Option ResolvedPins := (s.wiring.get? k).map (·.pins)

/-- One resolved pin of a slot. -/
def pin? (s : Session) (k : SlotKey) (name : PinName) : Option String := (s.pins? k).bind (·.get? name)

/-- What is wired to a slot, as an assignment. -/
def assignment? (s : Session) (k : SlotKey) : Option Assignment :=
  (s.wiring.get? k).map fun w => ⟨k.function, k.slot, w.port, w.category⟩

/-- All assignments, in the order of their slots. -/
def assignments (s : Session) : List Assignment := (Enumerated.all : List SlotKey).filterMap s.assignment?

/-- Whether a function has a primary port. -/
def isAssigned (s : Session) (f : PrinterFunction) : Bool := s.wiring.contains ⟨f, .primary⟩

/-- The pin options of a function. -/
def optionsOf (s : Session) (f : PrinterFunction) : PinOptions := (s.options.get? f).getD .standard

/-- Records pin options; standard ones leave no entry. -/
def putOptions (s : Session) (f : PrinterFunction) (o : PinOptions) : Session :=
  { s with options := s.options.put f (if o.isStandard then none else some o) }

/-- Records where a function is placed. -/
def putLocation (s : Session) (f : PrinterFunction) (r : Role) : Session :=
  { s with locations := s.locations.insert f r }

end Session

end PrinterWiring
