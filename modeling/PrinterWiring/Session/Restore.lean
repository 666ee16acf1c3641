import PrinterWiring.Session.Edit

/-!
# Restoring a session

A document is turned into a session by carrying out its facts as edits: boards, pin options, primary
ports, secondary ports, locations. A fact that is refused is left out and reported.
-/

namespace PrinterWiring

/-- A fact of a document. -/
inductive FactName where
  | board (role : Role)
  | port (key : SlotKey)
  | location (function : PrinterFunction)
deriving DecidableEq

/-- The name of the port of a slot, within its function. -/
def Slot.portField : Slot → String
  | .primary => "port"
  | .secondary => "port_2"

/-- The name under which a fact is reported. -/
def FactName.toText : FactName → String
  | board role => "board." ++ role.name
  | port key => key.function.key ++ "." ++ key.slot.portField
  | location f => f.key ++ ".location"

/-- A fact that was left out, and why. -/
structure RestoreIssue where
  fact : FactName
  error : WiringError
deriving DecidableEq

def RestoreIssue.message (i : RestoreIssue) : String := i.fact.toText ++ ": " ++ i.error.message

/-- A session under restoration, with the issues so far. -/
structure Restoration where
  session : Session
  issues : List RestoreIssue

namespace Restoration

/-- Keeps the session of an edit that was carried out, or adds an issue. -/
def take {α : Type} (r : Restoration) (fact : FactName) : Except WiringError (Session × α) → Restoration
  | .ok (s, _) => { r with session := s }
  | .error e => { r with issues := r.issues ++ [⟨fact, e⟩] }

/-- Selects the board that a document names for a role. -/
def board (c : Catalog) (d : Document) (r : Restoration) (role : Role) : Restoration :=
  match d.boards.get? role with
  | none => r
  | some id => r.take (.board role) (r.session.selectBoard c role (some id))

/-- Wires the port of a record. -/
def record (c : Catalog) (r : Restoration) (p : PortRecord) : Restoration :=
  r.take (.port p.key) (r.session.assign c p.function p.role p.port p.slot)

/-- Records the location of a function, unless its primary port is elsewhere. -/
def location (r : Restoration) (p : PrinterFunction × Role) : Restoration :=
  match r.session.port? ⟨p.1, .primary⟩ with
  | some port =>
    if port.role = p.2 then { r with session := r.session.putLocation p.1 p.2 }
    else { r with issues := r.issues ++ [⟨.location p.1, .misplaced p.1 p.2 port.role⟩] }
  | none => { r with session := r.session.putLocation p.1 p.2 }

end Restoration

/-- The records in the order in which they are wired: primary ports first. -/
def Document.wiringOrder (d : Document) : List PortRecord :=
  d.records.filter (·.slot = .primary) ++ d.records.filter (·.slot = .secondary)

/-- The session of a document, and what had to be left out. -/
def Session.restore (c : Catalog) (d : Document) : Session × List RestoreIssue :=
  let start : Restoration := ⟨{ Session.empty with settings := d.settings }, []⟩
  let selected := (Enumerated.all : List Role).foldl (Restoration.board c d) start
  let optioned := { selected with
    session := d.options.toList.foldl (fun s p => s.putOptions p.1 p.2) selected.session }
  let wired := d.wiringOrder.foldl (Restoration.record c) optioned
  let placed := d.locations.toList.foldl Restoration.location wired
  (placed.session, placed.issues)

end PrinterWiring
