import PrinterWiring.Session.Restore

/-!
# Sessions with two tables

A session that keeps the ports of its slots and their resolved pins apart. The mutators at the bottom change a table
each or both at once, and whether the two tables speak of the same slots is up to the operations above them. The
operations answer what those of a `Session` answer.
-/

namespace PrinterWiring

/-- A session with its ports in one table and the pins resolved for them in another. -/
@[ext] structure SplitSession where
  boards : Table Role String
  assignments : Table SlotKey Assignment
  resolved : Table SlotKey ResolvedPins
  options : Table PrinterFunction PinOptions
  locations : Table PrinterFunction Role
  settings : Settings

namespace SplitSession

/-- The session in which nothing has been done. -/
def empty : SplitSession := ⟨.empty, .empty, .empty, .empty, .empty, .standard⟩

/-! ## What is looked up -/

/-- The port of a slot. -/
def port? (s : SplitSession) (k : SlotKey) : Option Address := (s.assignments.get? k).map (·.port)

/-- The pin options of a function. -/
def optionsOf (s : SplitSession) (f : PrinterFunction) : PinOptions := (s.options.get? f).getD .standard

/-- Which slots have which ports. -/
def registry (s : SplitSession) : Registry := ⟨s.assignments.values⟩

/-! ## Mutators -/

/-- Selects a board, or none, and does nothing else. -/
def setBoard (s : SplitSession) (role : Role) (id : Option String) : SplitSession :=
  { s with boards := s.boards.put role id }

/-- Puts an assignment and its pins at the slot that the assignment names. -/
def insertAssignment (s : SplitSession) (a : Assignment) (pins : ResolvedPins) : SplitSession :=
  { s with assignments := s.assignments.insert a.key a, resolved := s.resolved.insert a.key pins }

/-- Takes a slot out of both tables. Answers whether it had a port. -/
def removeSlot (s : SplitSession) (k : SlotKey) : SplitSession × Bool :=
  ({ s with resolved := s.resolved.erase k, assignments := s.assignments.erase k }, s.assignments.contains k)

/-- Puts other pins at a slot, whether or not it has a port. -/
def replaceResolved (s : SplitSession) (k : SlotKey) (pins : ResolvedPins) : SplitSession :=
  { s with resolved := s.resolved.insert k pins }

/-- Records pin options; standard ones leave no entry. -/
def putOptions (s : SplitSession) (f : PrinterFunction) (o : PinOptions) : SplitSession :=
  { s with options := s.options.put f (if o.isStandard then none else some o) }

/-- Records where a function is placed. -/
def putLocation (s : SplitSession) (f : PrinterFunction) (r : Role) : SplitSession :=
  { s with locations := s.locations.insert f r }

/-! ## Edits -/

/-- Selects the board of a role, or none. A change removes the slots with ports of that role. -/
def selectBoard (c : Catalog) (s : SplitSession) (role : Role) (id : Option String) :
    Except WiringError (SplitSession × Nat) := do
  match id with
  | some id => let _ ← c.board id
  | none => pure ()
  if s.boards.get? role = id then
    return (s, 0)
  let stale := (s.assignments.values.filter (·.port.role = role)).map Assignment.key
  return ((stale.foldl (fun s k => (s.removeSlot k).1) s).setBoard role id, stale.length)

/-- Binds a port to a slot. -/
def assign (c : Catalog) (s : SplitSession) (f : PrinterFunction) (role : Role) (port : String) (slot : Slot) :
    Except WiringError (SplitSession × AssignResult) := do
  if slot = .secondary then
    if !f.allowsSecondary then
      throw (.noSecondary f)
    if !s.assignments.contains ⟨f, .primary⟩ then
      throw (.primaryMissing f)
  let some id := s.boards.get? role | throw (.noBoard role)
  let board ← c.board id
  let some p := board.port? port | throw (.unknownPort role board.id port)
  if p.category ≠ f.category then
    throw (.wrongCategory f p.category p.id)
  match s.registry.owner? role p.id with
  | some owner =>
    if owner = ⟨f, slot⟩ then return (s, .unchanged)
    throw (.portTaken role p.id owner)
  | none =>
    let pins ← p.resolve f role (s.optionsOf f)
    let bound := s.insertAssignment ⟨f, slot, ⟨role, p.id⟩, p.category⟩ pins
    let placed := if slot = .primary then bound.putLocation f role else bound
    match s.port? ⟨f, slot⟩ with
    | some previous => return (placed, .reassigned previous)
    | none => return (placed, .assigned)

/-- Removes slots of a function one after the other. Answers how many of them had a port. -/
def clear (s : SplitSession) (f : PrinterFunction) (which : SlotChoice) : SplitSession × Nat :=
  which.slots.foldl (fun (s, count) slot =>
    let (s, removed) := s.removeSlot ⟨f, slot⟩
    (s, if removed then count + 1 else count)) (s, 0)

/-- Places a function on a board. If it was placed elsewhere, its slots are removed. -/
def relocate (s : SplitSession) (f : PrinterFunction) (role : Role) : SplitSession × Nat :=
  if s.locations.get? f = some role ∧ (s.port? ⟨f, .primary⟩).all (·.role = role) then (s, 0)
  else
    let (cleared, count) := s.clear f .both
    (cleared.putLocation f role, count)

/-- Clears the slot that owns a port. Answers that slot. -/
def freePort (s : SplitSession) (role : Role) (port : String) : SplitSession × Option SlotKey :=
  match s.registry.owner? role port with
  | none => (s, none)
  | some owner =>
    let which := match owner.slot with
      | .primary => SlotChoice.primary
      | .secondary => SlotChoice.secondary
    ((s.clear owner.function which).1, some owner)

/-- The pins of a slot resolved under other options, if it has a port. -/
def refresh (c : Catalog) (s : SplitSession) (o : PinOptions) (k : SlotKey) :
    Except WiringError (Option (SlotKey × ResolvedPins)) :=
  match s.assignments.get? k with
  | none => .ok none
  | some a => do
    let some id := s.boards.get? a.port.role | throw (.noBoard a.port.role)
    let board ← c.board id
    let some p := board.port? a.port.port | throw (.unknownPort a.port.role board.id a.port.port)
    let pins ← p.resolve k.function a.port.role o
    return some (k, pins)

/-- Sets the pin options of a function, and replaces the pins that were resolved under the old ones. -/
def setOptions (c : Catalog) (s : SplitSession) (f : PrinterFunction) (o : PinOptions) :
    Except WiringError SplitSession := do
  let refreshed ← [Slot.primary, .secondary].mapM fun slot => s.refresh c o ⟨f, slot⟩
  return (refreshed.filterMap id).foldl (fun s p => s.replaceResolved p.1 p.2) (s.putOptions f o)

/-- Carries out an edit. -/
def perform (c : Catalog) (s : SplitSession) : Edit → Except WiringError (SplitSession × Reply)
  | .selectBoard role board => (s.selectBoard c role board).map fun (t, n) => (t, .cleared n)
  | .assign f role port slot => (s.assign c f role port slot).map fun (t, r) => (t, .assigned r)
  | .clear f which => let (t, n) := s.clear f which; .ok (t, .cleared n)
  | .freePort role port => let (t, owner) := s.freePort role port; .ok (t, .freed owner)
  | .relocate f role => let (t, n) := s.relocate f role; .ok (t, .cleared n)
  | .setOptions f o => (s.setOptions c f o).map fun t => (t, .done)

/-! ## Restoring -/

/-- A session under restoration, with the issues so far. -/
structure Replay where
  session : SplitSession
  issues : List RestoreIssue

namespace Replay

/-- Keeps the session of an edit that was carried out, or adds an issue. -/
def take {α : Type} (r : Replay) (fact : FactName) : Except WiringError (SplitSession × α) → Replay
  | .ok (s, _) => { r with session := s }
  | .error e => { r with issues := r.issues ++ [⟨fact, e⟩] }

/-- Selects the board that a document names for a role. -/
def board (c : Catalog) (d : Document) (r : Replay) (role : Role) : Replay :=
  match d.boards.get? role with
  | none => r
  | some id => r.take (.board role) (r.session.selectBoard c role (some id))

/-- Binds the port of a record. -/
def record (c : Catalog) (r : Replay) (p : PortRecord) : Replay :=
  r.take (.port p.key) (r.session.assign c p.function p.role p.port p.slot)

/-- Records the location of a function, unless its primary port is elsewhere. -/
def location (r : Replay) (p : PrinterFunction × Role) : Replay :=
  match r.session.port? ⟨p.1, .primary⟩ with
  | some port =>
    if port.role = p.2 then { r with session := r.session.putLocation p.1 p.2 }
    else { r with issues := r.issues ++ [⟨.location p.1, .misplaced p.1 p.2 port.role⟩] }
  | none => { r with session := r.session.putLocation p.1 p.2 }

end Replay

/-- The session of a document, and what had to be left out. -/
def restore (c : Catalog) (d : Document) : SplitSession × List RestoreIssue :=
  let start : Replay := ⟨{ empty with settings := d.settings }, []⟩
  let selected := (Enumerated.all : List Role).foldl (Replay.board c d) start
  let optioned := { selected with
    session := d.options.toList.foldl (fun s p => s.putOptions p.1 p.2) selected.session }
  let bound := d.wiringOrder.foldl (Replay.record c) optioned
  let placed := d.locations.toList.foldl Replay.location bound
  (placed.session, placed.issues)

end SplitSession

end PrinterWiring
