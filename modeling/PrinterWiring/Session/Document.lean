import PrinterWiring.Session.Basic

/-!
# Documents

A document is what is kept and sent of a session: facts only, no resolved pins. Its records may come
in any order, repeat or contradict each other; `Session.restore` sorts that out.
-/

namespace PrinterWiring

/-- A port wired to a slot, as a fact. -/
structure PortRecord where
  function : PrinterFunction
  slot : Slot
  role : Role
  port : String
deriving DecidableEq

namespace PortRecord

/-- The slot of a record. -/
def key (r : PortRecord) : SlotKey := ⟨r.function, r.slot⟩

def toJson (r : PortRecord) : Json := .obj
  [("function", r.function.toJson), ("slot", r.slot.toJson), ("role", r.role.toJson), ("port", .text r.port)]

/-- The fields of a record; the slot is the primary one if it is not given. -/
def fields : RecordDecoder PortRecord :=
  PortRecord.mk <$> .required "function" PrinterFunction.decoder <*> .withDefault "slot" Slot.decoder .primary
    <*> .required "role" Role.decoder <*> .required "port" Decode.text

def decoder : Decoder PortRecord := fields.decode

end PortRecord

/-- The facts of a session. -/
structure Document where
  boards : Table Role String
  records : List PortRecord
  options : Table PrinterFunction PinOptions
  locations : Table PrinterFunction Role
  settings : Settings
deriving DecidableEq

namespace Document

/-- The document without facts. -/
def empty : Document := ⟨.empty, [], .empty, .empty, .standard⟩

def toJson (d : Document) : Json := .obj
  [("mainboard", .ofOption .text (d.boards.get? .mainboard)),
   ("toolboard", .ofOption .text (d.boards.get? .toolboard)),
   ("assignments", .arr (d.records.map PortRecord.toJson)),
   ("pin_options", .obj (d.options.toList.map fun p => (p.1.key, p.2.toJson))),
   ("locations", .obj (d.locations.toList.map fun p => (p.1.key, p.2.toJson))),
   ("settings", d.settings.toJson)]

/-- The document with the given parts. -/
def ofParts (mainboard toolboard : Option String) (records : List PortRecord)
    (options : Table PrinterFunction PinOptions) (locations : Table PrinterFunction Role)
    (settings : Settings) : Document where
  boards := (Table.empty.put Role.mainboard mainboard).put .toolboard toolboard
  records := records
  options := options
  locations := locations
  settings := settings

/-- The fields of a document, none of which has to be there. -/
def fields : RecordDecoder Document :=
  ofParts <$> .optional "mainboard" Decode.text <*> .optional "toolboard" Decode.text
    <*> .withDefault "assignments" (Decode.list PortRecord.decoder) []
    <*> .withDefault "pin_options" (Decode.table PrinterFunction.parse? PinOptions.decoder) .empty
    <*> .withDefault "locations" (Decode.table PrinterFunction.parse? Role.decoder) .empty
    <*> .withDefault "settings" Settings.decoder .standard

def decoder : Decoder Document := fields.decode

end Document

/-- The facts of a session. -/
def Session.toDocument (s : Session) : Document where
  boards := s.boards
  records := s.assignments.map fun a => ⟨a.function, a.slot, a.port.role, a.port.port⟩
  options := s.options.filter fun _ o => !o.isStandard
  locations := s.locations
  settings := s.settings

end PrinterWiring
