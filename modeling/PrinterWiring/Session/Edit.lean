import PrinterWiring.Catalog.Basic
import PrinterWiring.Session.Document
import PrinterWiring.Session.Registry

/-!
# Editing a session

The edits of what is wired. Each one checks and resolves first and then changes the session whole, so
that a refused edit has changed nothing. `Edit` names them all, and `Session.perform` carries one out
against a catalog.
-/

namespace PrinterWiring

/-- What an assignment did. -/
inductive AssignResult where
  /-- The slot was empty. -/
  | assigned
  /-- The slot had another port. -/
  | reassigned (previous : Address)
  /-- The slot had the port already. -/
  | unchanged
deriving DecidableEq

namespace Session

/-- Selects the board of a role, or none. A change takes away what was wired to ports of that role.
Answers how many slots lost their port. -/
def selectBoard (c : Catalog) (s : Session) (role : Role) (id : Option String) :
    Except WiringError (Session × Nat) := do
  match id with
  | some id => let _ ← c.board id
  | none => pure ()
  if s.boards.get? role = id then
    return (s, 0)
  let lost := s.assignments.filter (·.port.role = role)
  return ({ s with boards := s.boards.put role id, wiring := s.wiring.filter fun _ w => w.port.role ≠ role },
    lost.length)

/-- Wires a port to a slot. -/
def assign (c : Catalog) (s : Session) (f : PrinterFunction) (role : Role) (port : String) (slot : Slot) :
    Except WiringError (Session × AssignResult) := do
  if slot = .secondary then
    if !f.allowsSecondary then
      throw (.noSecondary f)
    if !s.isAssigned f then
      throw (.primaryMissing f)
  let some id := s.board? role | throw (.noBoard role)
  let board ← c.board id
  let some p := board.port? port | throw (.unknownPort role board.id port)
  if p.category ≠ f.category then
    throw (.wrongCategory f p.category p.id)
  match s.registry.owner? role p.id with
  | some owner =>
    if owner = ⟨f, slot⟩ then return (s, .unchanged)
    throw (.portTaken role p.id owner)
  | none =>
    let pins ← p.resolve f role (s.optionsOf f)
    let wired := { s with wiring := s.wiring.insert ⟨f, slot⟩ ⟨⟨role, p.id⟩, p.category, pins⟩ }
    let placed := if slot = .primary then wired.putLocation f role else wired
    match s.port? ⟨f, slot⟩ with
    | some previous => return (placed, .reassigned previous)
    | none => return (placed, .assigned)

/-- Clears slots of a function. Answers how many of them had a port. -/
def clear (s : Session) (f : PrinterFunction) (which : SlotChoice) : Session × Nat :=
  ({ s with wiring := which.slots.foldl (fun w slot => w.erase ⟨f, slot⟩) s.wiring },
    (which.slots.filter fun slot => s.wiring.contains ⟨f, slot⟩).length)

/-- Places a function on a board. If it was placed elsewhere, its slots are cleared. Answers how many of
them had a port. -/
def relocate (s : Session) (f : PrinterFunction) (role : Role) : Session × Nat :=
  if s.locations.get? f = some role ∧ (s.port? ⟨f, .primary⟩).all (·.role = role) then (s, 0)
  else
    let (cleared, count) := s.clear f .both
    (cleared.putLocation f role, count)

/-- Clears the slot that owns a port. Answers that slot. -/
def freePort (s : Session) (role : Role) (port : String) : Session × Option SlotKey :=
  match s.registry.owner? role port with
  | none => (s, none)
  | some owner =>
    let which := match owner.slot with
      | .primary => SlotChoice.primary
      | .secondary => SlotChoice.secondary
    ((s.clear owner.function which).1, some owner)

/-- What is wired to a slot, with its pins resolved under other options. -/
def rewire (c : Catalog) (s : Session) (o : PinOptions) (k : SlotKey) : Except WiringError (Option Wiring) :=
  match s.wiring.get? k with
  | none => .ok none
  | some w => do
    let some id := s.board? w.port.role | throw (.noBoard w.port.role)
    let board ← c.board id
    let some p := board.port? w.port.port | throw (.unknownPort w.port.role board.id w.port.port)
    let pins ← p.resolve k.function w.port.role o
    return some { w with pins := pins }

/-- Sets the pin options of a function and resolves its pins again. -/
def setOptions (c : Catalog) (s : Session) (f : PrinterFunction) (o : PinOptions) : Except WiringError Session := do
  let primary ← s.rewire c o ⟨f, .primary⟩
  let secondary ← s.rewire c o ⟨f, .secondary⟩
  let set := s.putOptions f o
  return { set with wiring := (set.wiring.put ⟨f, .primary⟩ primary).put ⟨f, .secondary⟩ secondary }

end Session

/-- An edit of what is wired. -/
inductive Edit where
  | selectBoard (role : Role) (board : Option String)
  | assign (function : PrinterFunction) (role : Role) (port : String) (slot : Slot)
  | clear (function : PrinterFunction) (which : SlotChoice)
  | freePort (role : Role) (port : String)
  | relocate (function : PrinterFunction) (role : Role)
  | setOptions (function : PrinterFunction) (options : PinOptions)
deriving DecidableEq

/-- What an edit answers. -/
inductive Reply where
  /-- So many slots lost their port. -/
  | cleared (count : Nat)
  | assigned (result : AssignResult)
  /-- This slot owned the port. -/
  | freed (owner : Option SlotKey)
  | done
deriving DecidableEq

/-- Carries out an edit. -/
def Session.perform (c : Catalog) (s : Session) : Edit → Except WiringError (Session × Reply)
  | .selectBoard role board => (s.selectBoard c role board).map fun (t, n) => (t, .cleared n)
  | .assign f role port slot => (s.assign c f role port slot).map fun (t, r) => (t, .assigned r)
  | .clear f which => let (t, n) := s.clear f which; .ok (t, .cleared n)
  | .freePort role port => let (t, owner) := s.freePort role port; .ok (t, .freed owner)
  | .relocate f role => let (t, n) := s.relocate f role; .ok (t, .cleared n)
  | .setOptions f o => (s.setOptions c f o).map fun t => (t, .done)

end PrinterWiring
