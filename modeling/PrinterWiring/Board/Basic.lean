import PrinterWiring.Board.Pins
import PrinterWiring.Board.Role
import PrinterWiring.Text.Split

/-!
# Boards and their ports

A board has an ordered list of ports. A port is addressed by the role of its board and its id, and
ids are looked up without regard to letter case.
-/

namespace PrinterWiring

/-- A connector on a board. -/
structure Port where
  /-- Unique within the board up to letter case. -/
  id : String
  /-- What is printed next to the connector, when that is not the id. -/
  label : Option String
  category : Category
  pins : PinSet
deriving DecidableEq

/-- A controller board. -/
structure Board where
  id : String
  name : String
  manufacturer : String
  /-- The role the board is made for. -/
  role : Role
  /-- The type of its controller. -/
  mcu : String
  ports : List Port
deriving DecidableEq

def Port.toJson (p : Port) : Json := .obj <|
  [("id", .text p.id)] ++ (p.label.toList.map fun l => ("label", .text l))
    ++ [("category", p.category.toJson), ("pins", p.pins.toJson)]

namespace Board

/-- The first port with an id. -/
def port? (b : Board) (id : String) : Option Port := b.ports.find? (Text.sameFolded ·.id id)

/-- The ports of a category. -/
def portsIn (b : Board) (c : Category) : List Port := b.ports.filter (·.category = c)

/-- The categories that the board has ports of. -/
def categories (b : Board) : List Category :=
  (Enumerated.all : List Category).filter fun c => !(b.portsIn c).isEmpty

def toJson (b : Board) : Json := .obj
  [("id", .text b.id), ("name", .text b.name), ("manufacturer", .text b.manufacturer),
   ("role", b.role.toJson), ("mcu", .text b.mcu), ("ports", .arr (b.ports.map Port.toJson))]

end Board

/-- The address of a port: the role of its board, and its id. -/
structure Address where
  role : Role
  port : String
deriving DecidableEq

namespace Address

/-- The address as text, `role:port`. -/
def toText (a : Address) : String := a.role.name ++ ":" ++ a.port

/-- Whether an address stands before another in listings: by role, then by port id. -/
def precedes (a b : Address) : Bool :=
  (Enumerated.position a.role).val < (Enumerated.position b.role).val || (a.role == b.role && a.port < b.port)

/-- Reads an address; the first colon ends the role. -/
def parse (s : String) : Except NameError Address :=
  match Text.splitFirst? ':' s with
  | none => .error (.addressWithoutRole s)
  | some (role, port) =>
    if (Text.trim port).isEmpty then .error (.addressWithoutPort s)
    else (Role.parse role).map fun r => ⟨r, Text.trim port⟩

def toJson (a : Address) : Json := .obj [("role", a.role.toJson), ("port_id", .text a.port)]

def fields : RecordDecoder Address :=
  Address.mk <$> .required "role" Role.decoder <*> .required "port_id" Decode.text

def decoder : Decoder Address := fields.decode

end Address

end PrinterWiring
