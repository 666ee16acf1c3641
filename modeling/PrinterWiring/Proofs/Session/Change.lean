import Mathlib.Logic.Relation
import PrinterWiring.Proofs.Checks
import PrinterWiring.Proofs.Tables
import PrinterWiring.Proofs.Text.Fold
import PrinterWiring.Session.Restore

/-!
# How a session changes

`assign` is three checks in turn (`assign_eq`): the slot is admitted, the selected board offers the port, and the
port is free to claim. Whatever an edit does, it does by a few changes of a session, which `Change` lists with
what was checked before each, or by swapping the board of a role (`perform_ok`).
-/

namespace PrinterWiring

theorem Catalog.board_eq_ok {c : Catalog} {id : String} {b : Board} : c.board id = .ok b ↔ c.board? id = some b := by
  unfold Catalog.board
  cases c.board? id <;> simp

namespace Session

/-! ## The checks of an assignment -/

/-- Whether a slot may take a port. -/
def admits (s : Session) (f : PrinterFunction) (slot : Slot) : Except WiringError Unit :=
  if slot = .secondary then
    if f.allowsSecondary then
      if s.isAssigned f then .ok () else .error (.primaryMissing f)
    else .error (.noSecondary f)
  else .ok ()

/-- The port that the selected board has for a function. -/
def offered (c : Catalog) (s : Session) (f : PrinterFunction) (role : Role) (port : String) :
    Except WiringError Port := do
  let some id := s.board? role | throw (.noBoard role)
  let board ← c.board id
  let some p := board.port? port | throw (.unknownPort role board.id port)
  if p.category = f.category then return p else throw (.wrongCategory f p.category p.id)

/-- Puts a wiring into a slot. A primary port also places its function. -/
def wire (s : Session) (k : SlotKey) (w : Wiring) : Session :=
  let wired := { s with wiring := s.wiring.insert k w }
  if k.slot = .primary then wired.putLocation k.function w.port.role else wired

/-- Wires a port that no other slot has. -/
def claim (s : Session) (f : PrinterFunction) (role : Role) (slot : Slot) (p : Port) :
    Except WiringError (Session × AssignResult) :=
  match s.registry.owner? role p.id with
  | some owner => if owner = ⟨f, slot⟩ then .ok (s, .unchanged) else .error (.portTaken role p.id owner)
  | none => do
    let pins ← p.resolve f role (s.optionsOf f)
    return (s.wire ⟨f, slot⟩ ⟨⟨role, p.id⟩, p.category, pins⟩, match s.port? ⟨f, slot⟩ with
      | some previous => .reassigned previous
      | none => .assigned)

/-- A secondary port needs a function that may have one, and a primary port before it. -/
theorem admits_ok {s : Session} {f : PrinterFunction} {slot : Slot} :
    s.admits f slot = .ok () ↔ (slot = .secondary → f.allowsSecondary = true ∧ s.isAssigned f = true) := by
  unfold admits
  split_ifs <;> simp_all

private theorem assign_admitted {c : Catalog} {s : Session} {f : PrinterFunction} {role : Role} {port : String}
    {slot : Slot} (admitted : s.admits f slot = .ok ()) :
    s.assign c f role port slot = (s.offered c f role port).bind (s.claim f role slot) := by
  have allowed := admits_ok.mp admitted
  have first : ∀ {α : Type} (e e' : WiringError) (rest : Except WiringError α),
      (if slot = .secondary then
        if (!f.allowsSecondary) = true then Except.error e
        else if (!s.isAssigned f) = true then Except.error e' else rest
      else rest) = rest := by
    intro α e e' rest
    split_ifs with second <;> simp_all
  unfold assign offered claim wire
  simp only [bind, Except.bind, pure, Except.pure, throw, throwThe, MonadExceptOf.throw, first]
  cases selected : s.board? role with
  | none => rfl
  | some id =>
    cases known : c.board id with
    | error e => simp only [known]
    | ok b =>
      cases found : b.port? port with
      | none => simp only [known, found]
      | some p =>
        by_cases fits : p.category = f.category
        · simp only [known, found, fits, ne_eq, not_true_eq_false, if_true, if_false]
          cases owned : s.registry.owner? role p.id with
          | some owner => rfl
          | none =>
            cases p.resolve f role (s.optionsOf f) with
            | error e => rfl
            | ok pins => cases s.port? ⟨f, slot⟩ <;> rfl
        · simp only [known, found, fits, ne_eq, not_false_eq_true, if_true, if_false]

/-- An assignment is three checks in turn. -/
theorem assign_eq (c : Catalog) (s : Session) (f : PrinterFunction) (role : Role) (port : String) (slot : Slot) :
    s.assign c f role port slot =
      (do s.admits f slot; let p ← s.offered c f role port; s.claim f role slot p) := by
  cases admitted : s.admits f slot with
  | ok u => exact assign_admitted admitted
  | error e =>
    unfold admits at admitted
    split_ifs at admitted with second allowed first <;> cases admitted
    · simp [assign, second, allowed, first]; rfl
    · simp [assign, second, allowed]; rfl

/-- A port is offered by the selected board if its category is that of the function. -/
theorem offered_ok {c : Catalog} {s : Session} {f : PrinterFunction} {role : Role} {port : String} {p : Port} :
    s.offered c f role port = .ok p ↔
      ∃ id b, s.board? role = some id ∧ c.board? id = some b ∧ b.port? port = some p ∧ p.category = f.category := by
  unfold offered
  cases selected : s.board? role with
  | none => simp [throw, throwThe, MonadExceptOf.throw]
  | some id =>
    simp only [bind_eq_ok, Catalog.board_eq_ok, Option.some.injEq, exists_and_left, exists_eq_left']
    refine exists_congr fun b => and_congr_right fun _ => ?_
    cases found : b.port? port with
    | none => simp [throw, throwThe, MonadExceptOf.throw]
    | some q =>
      by_cases fits : q.category = f.category
      · simp only [fits, if_true, pure, Except.pure, Except.ok.injEq, Option.some.injEq]
        constructor
        · rintro rfl; exact ⟨rfl, fits⟩
        · exact And.left
      · simp only [fits, if_false, throw, throwThe, MonadExceptOf.throw, reduceCtorEq, Option.some.injEq, false_iff]
        rintro ⟨rfl, same⟩
        exact fits same

private theorem claim_ok {s t : Session} {f : PrinterFunction} {role : Role} {slot : Slot} {p : Port} {r : AssignResult}
    (done : s.claim f role slot p = .ok (t, r)) :
    t = s ∨ ∃ pins, s.registry.owner? role p.id = none ∧ p.resolve f role (s.optionsOf f) = .ok pins ∧
      t = s.wire ⟨f, slot⟩ ⟨⟨role, p.id⟩, p.category, pins⟩ := by
  unfold claim at done
  cases owned : s.registry.owner? role p.id with
  | some owner =>
    simp only [owned] at done
    split_ifs at done
    cases done
    exact .inl rfl
  | none =>
    simp only [owned, bind_eq_ok] at done
    obtain ⟨pins, resolved, same⟩ := done
    cases same
    exact .inr ⟨pins, rfl, resolved, rfl⟩

/-! ## The changes -/

/-- Replaces the board of a role, and takes away what was wired to its ports. -/
def swapBoard (s : Session) (role : Role) (id : Option String) : Session :=
  { s with boards := s.boards.put role id, wiring := s.wiring.filter fun _ w => w.port.role ≠ role }

/-- The catalog has the board that is to be selected, if any is. -/
def Known (c : Catalog) (id : Option String) : Prop := ∀ i, id = some i → ∃ b, c.board? i = some b

/-- The board selected for the role of a wiring has its port, with exactly its id and category, and
resolves it to its pins under the options of the function. -/
def Backed (c : Catalog) (s : Session) (k : SlotKey) (w : Wiring) : Prop :=
  ∃ id b p, s.board? w.port.role = some id ∧ c.board? id = some b ∧ b.port? w.port.port = some p ∧
    p.id = w.port.port ∧ p.category = w.category ∧
    p.resolve k.function w.port.role (s.optionsOf k.function) = .ok w.pins

/-- What is checked before a wiring is put into a slot. -/
structure Fits (c : Catalog) (s : Session) (k : SlotKey) (w : Wiring) : Prop where
  allowed : k.slot = .secondary → k.function.allowsSecondary = true ∧ s.isAssigned k.function = true
  backed : s.Backed c k w
  category : w.category = k.function.category
  free : s.registry.owner? w.port.role w.port.port = none

/-- `t` is `s` with other options of a function, under which its pins are resolved again. -/
structure Reoptioned (c : Catalog) (s : Session) (f : PrinterFunction) (o : PinOptions) (t : Session) : Prop where
  boards : t.boards = s.boards
  locations : t.locations = s.locations
  options : t.options = (s.putOptions f o).options
  own : ∀ slot, s.rewire c o ⟨f, slot⟩ = .ok (t.wiring.get? ⟨f, slot⟩)
  others : ∀ k : SlotKey, k.function ≠ f → t.wiring.get? k = s.wiring.get? k

/-- The changes that operations are made of, apart from the swap of a board. -/
inductive Change (c : Catalog) (s : Session) : Session → Prop where
  | wired {k : SlotKey} {w : Wiring} (fits : s.Fits c k w) : Change c s (s.wire k w)
  | cleared (f : PrinterFunction) (which : SlotChoice) : Change c s (s.clear f which).1
  | placed {f : PrinterFunction} {role : Role}
      (agrees : ∀ a, s.port? ⟨f, .primary⟩ = some a → a.role = role) : Change c s (s.putLocation f role)
  | optioned {f : PrinterFunction} {o : PinOptions} {t : Session} (done : s.Reoptioned c f o t) : Change c s t
  | settled (settings : Settings) : Change c s { s with settings := settings }

/-- A function is assigned if it has a primary port. -/
theorem isAssigned_iff {s : Session} {f : PrinterFunction} :
    s.isAssigned f = true ↔ ∃ a, s.port? ⟨f, .primary⟩ = some a := by
  simp [isAssigned, port?, Table.contains_iff]

section
variable (s : Session) (f : PrinterFunction) (role : Role)

@[simp] theorem wire_boards (k : SlotKey) (w : Wiring) : (s.wire k w).boards = s.boards := by
  unfold wire; split <;> rfl

@[simp] theorem wire_wiring (k : SlotKey) (w : Wiring) : (s.wire k w).wiring = s.wiring.insert k w := by
  unfold wire; split <;> rfl

@[simp] theorem wire_options (k : SlotKey) (w : Wiring) : (s.wire k w).options = s.options := by
  unfold wire; split <;> rfl

@[simp] theorem wire_settings (k : SlotKey) (w : Wiring) : (s.wire k w).settings = s.settings := by
  unfold wire; split <;> rfl

theorem wire_locations (k : SlotKey) (w : Wiring) :
    (s.wire k w).locations =
      if k.slot = .primary then s.locations.insert k.function w.port.role else s.locations := by
  unfold wire; split <;> rfl

theorem clear_get? (which : SlotChoice) (k : SlotKey) :
    (s.clear f which).1.wiring.get? k = if k.function = f ∧ k.slot ∈ which.slots then none else s.wiring.get? k := by
  obtain ⟨g, slot⟩ := k
  cases which <;> cases slot <;> by_cases same : g = f <;>
    simp [clear, SlotChoice.slots, Table.get?_erase, same]

theorem wire_port? (k j : SlotKey) (w : Wiring) :
    (s.wire k w).port? j = if j = k then some w.port else s.port? j := by
  rw [port?, wire_wiring, Table.get?_insert]
  split_ifs <;> rfl

theorem clear_port? (which : SlotChoice) (k : SlotKey) :
    (s.clear f which).1.port? k = if k.function = f ∧ k.slot ∈ which.slots then none else s.port? k := by
  rw [port?, clear_get?]
  split_ifs <;> rfl

@[simp] theorem swapBoard_port? (id : Option String) (k : SlotKey) :
    (s.swapBoard role id).port? k = (s.port? k).filter (·.role ≠ role) := by
  simp only [port?, swapBoard, Table.get?_filter]
  cases s.wiring.get? k with
  | none => rfl
  | some w => by_cases here : w.port.role = role <;> simp [Option.filter, here]

theorem swapBoard_board? (id : Option String) (other : Role) :
    (s.swapBoard role id).board? other = if other = role then id else s.board? other :=
  Table.get?_put ..

end

/-! ## What the edits change -/

variable {c : Catalog} {s t : Session}

/-- What an assignment wires fits the slot. -/
theorem assign_ok {f : PrinterFunction} {role : Role} {port : String} {slot : Slot} {r : AssignResult}
    (done : s.assign c f role port slot = .ok (t, r)) :
    t = s ∨ ∃ w, s.Fits c ⟨f, slot⟩ w ∧ w.port.role = role ∧ Text.SameLetters w.port.port port ∧
      t = s.wire ⟨f, slot⟩ w := by
  simp only [assign_eq, bind_eq_ok] at done
  obtain ⟨_, admitted, p, offers, claimed⟩ := done
  obtain ⟨id, b, selected, known, found, category⟩ := offered_ok.mp offers
  rcases claim_ok claimed with same | ⟨pins, free, resolved, rfl⟩
  · exact .inl same
  · have backed : s.Backed c ⟨f, slot⟩ ⟨⟨role, p.id⟩, p.category, pins⟩ :=
      ⟨id, b, p, selected, known, Board.port?_id found, rfl, rfl, resolved⟩
    exact .inr ⟨_, ⟨admits_ok.mp admitted, backed, category, free⟩, rfl, Board.port?_sameLetters found, rfl⟩

/-- A wiring that fits is what an assignment of its port makes. -/
theorem assign_of_fits {k : SlotKey} {w : Wiring} (fits : s.Fits c k w) :
    ∃ r, s.assign c k.function w.port.role w.port.port k.slot = .ok (s.wire k w, r) := by
  obtain ⟨allowed, ⟨id, b, p, selected, known, found, own, sort, resolved⟩, category, free⟩ := fits
  have offers : s.offered c k.function w.port.role w.port.port = .ok p :=
    offered_ok.mpr ⟨id, b, selected, known, found, sort.trans category⟩
  rw [assign_eq, admits_ok.mpr allowed, offers]
  simp only [bind, Except.bind, claim, own, sort, free, resolved]
  exact ⟨_, rfl⟩

/-- Once the board is known, its selection goes through. -/
private theorem selectBoard_known {role : Role} {id : Option String} (known : Known c id) :
    ∃ n, s.selectBoard c role id = .ok (if s.board? role = id then s else s.swapBoard role id, n) := by
  by_cases same : s.board? role = id
  · have held : s.boards.get? role = id := same
    refine ⟨0, ?_⟩
    rw [if_pos same]
    cases id with
    | none => simp only [selectBoard, held, if_true]; rfl
    | some i =>
      obtain ⟨b, found⟩ := known i rfl
      simp only [selectBoard, Catalog.board_eq_ok.mpr found, held, if_true]
      rfl
  · have other : s.boards.get? role ≠ id := same
    refine ⟨(s.assignments.filter (·.port.role = role)).length, ?_⟩
    rw [if_neg same]
    cases id with
    | none => simp only [selectBoard, other, if_false]; rfl
    | some i =>
      obtain ⟨b, found⟩ := known i rfl
      simp only [selectBoard, Catalog.board_eq_ok.mpr found, other, if_false]
      rfl

private theorem known_of_selectBoard {role : Role} {id : Option String} {n : Nat}
    (done : s.selectBoard c role id = .ok (t, n)) : Known c id := by
  rintro i rfl
  simp only [selectBoard, bind_eq_ok] at done
  obtain ⟨b, found, _⟩ := done
  exact ⟨b, Catalog.board_eq_ok.mp found⟩

/-- A known board is selected, and nothing changes if it was selected before. -/
theorem selectBoard_ok_iff {role : Role} {id : Option String} :
    (∃ n, s.selectBoard c role id = .ok (t, n)) ↔
      Known c id ∧ t = if s.board? role = id then s else s.swapBoard role id := by
  constructor
  · rintro ⟨n, done⟩
    have known := known_of_selectBoard done
    obtain ⟨m, result⟩ : ∃ n, s.selectBoard c role id = .ok (if s.board? role = id then s else s.swapBoard role id, n) :=
      selectBoard_known known
    rw [result] at done
    exact ⟨known, (Prod.mk.inj (Except.ok.inj done)).1.symm⟩
  · rintro ⟨known, rfl⟩
    exact selectBoard_known known

/-- What is wired again is the same but for its pins. -/
theorem rewire_ok {o : PinOptions} {k : SlotKey} {x : Option Wiring} (done : s.rewire c o k = .ok x) :
    (s.wiring.get? k = none ∧ x = none) ∨ ∃ w id b p pins, s.wiring.get? k = some w ∧
      s.board? w.port.role = some id ∧ c.board? id = some b ∧ b.port? w.port.port = some p ∧
      p.resolve k.function w.port.role o = .ok pins ∧ x = some { w with pins := pins } := by
  unfold rewire at done
  cases here : s.wiring.get? k with
  | none =>
    simp only [here, Except.ok.injEq] at done
    exact .inl ⟨rfl, done.symm⟩
  | some w =>
    simp only [here] at done
    cases selected : s.board? w.port.role with
    | none => simp [selected, throw, throwThe, MonadExceptOf.throw] at done
    | some id =>
      simp only [selected, bind_eq_ok, Catalog.board_eq_ok] at done
      obtain ⟨b, known, done⟩ := done
      cases found : b.port? w.port.port with
      | none => simp [found, throw, throwThe, MonadExceptOf.throw] at done
      | some p =>
        simp only [found, bind_eq_ok] at done
        obtain ⟨pins, resolved, same⟩ := done
        cases same
        exact .inr ⟨w, id, b, p, pins, rfl, selected, known, found, resolved, rfl⟩

/-- Options that are set are those of the function, and its pins are resolved under them. -/
theorem setOptions_ok {f : PrinterFunction} {o : PinOptions} (done : s.setOptions c f o = .ok t) :
    s.Reoptioned c f o t := by
  simp only [setOptions, bind_eq_ok] at done
  obtain ⟨primary, first, secondary, second, same⟩ := done
  cases same
  refine ⟨rfl, rfl, rfl, ?_, ?_⟩
  · intro slot
    cases slot with
    | primary => simpa [Table.get?_put] using first
    | secondary => simpa [Table.get?_put] using second
  · intro k other
    have apart : ∀ slot, k ≠ ⟨f, slot⟩ := by
      rintro slot rfl
      exact other rfl
    rw [Table.get?_put_of_ne (apart _), Table.get?_put_of_ne (apart _)]
    rfl

/-- Options change nothing of a wiring but its pins. -/
theorem Reoptioned.get? {f : PrinterFunction} {o : PinOptions} (done : s.Reoptioned c f o t) (k : SlotKey) :
    (s.wiring.get? k = none ∧ t.wiring.get? k = none) ∨
      ∃ w pins, s.wiring.get? k = some w ∧ t.wiring.get? k = some { w with pins := pins } := by
  by_cases own : k.function = f
  · obtain ⟨_, slot⟩ := k
    subst own
    rcases rewire_ok (done.own slot) with ⟨before, after⟩ | ⟨w, _, _, _, pins, before, _, _, _, _, after⟩
    · exact .inl ⟨before, after⟩
    · exact .inr ⟨w, pins, before, after⟩
  · rw [done.others k own]
    cases s.wiring.get? k with
    | none => exact .inl ⟨rfl, rfl⟩
    | some w => exact .inr ⟨w, w.pins, rfl, rfl⟩

theorem Reoptioned.port? {f : PrinterFunction} {o : PinOptions} (done : s.Reoptioned c f o t) (k : SlotKey) :
    t.port? k = s.port? k := by
  rcases done.get? k with ⟨before, after⟩ | ⟨w, pins, before, after⟩ <;> simp [Session.port?, before, after]

private theorem relocate_changes (s : Session) (f : PrinterFunction) (role : Role) :
    Relation.ReflTransGen (Change c) s (s.relocate f role).1 := by
  unfold relocate
  split_ifs
  · exact .refl
  · have agrees : ∀ a, (s.clear f .both).1.port? ⟨f, .primary⟩ = some a → a.role = role := by
      intro a held
      simp [clear_port?, SlotChoice.slots] at held
    exact .tail (.single (.cleared f .both)) (.placed agrees)

private theorem freePort_changes (s : Session) (role : Role) (port : String) :
    Relation.ReflTransGen (Change c) s (s.freePort role port).1 := by
  unfold freePort
  cases s.registry.owner? role port with
  | none => exact .refl
  | some owner => exact .single (.cleared owner.function _)

/-- An edit makes a few changes, or swaps the board of a role. -/
theorem perform_ok {e : Edit} {r : Reply} (done : s.perform c e = .ok (t, r)) :
    Relation.ReflTransGen (Change c) s t ∨
      ∃ role id, e = .selectBoard role id ∧ Known c id ∧ s.board? role ≠ id ∧ t = s.swapBoard role id := by
  cases e with
  | selectBoard role id =>
    obtain ⟨⟨u, n⟩, chosen, same⟩ := map_eq_ok.mp done
    cases same
    obtain ⟨known, rfl⟩ := selectBoard_ok_iff.mp ⟨n, chosen⟩
    by_cases held : s.board? role = id
    · rw [if_pos held]
      exact .inl .refl
    · exact .inr ⟨role, id, rfl, known, held, if_neg held⟩
  | assign f role port slot =>
    obtain ⟨⟨u, a⟩, assigned, same⟩ := map_eq_ok.mp done
    cases same
    rcases assign_ok assigned with rfl | ⟨w, fits, _, _, rfl⟩
    · exact .inl .refl
    · exact .inl (.single (.wired fits))
  | clear f which =>
    cases done
    exact .inl (.single (.cleared f which))
  | freePort role port =>
    cases done
    exact .inl (freePort_changes s role port)
  | relocate f role =>
    cases done
    exact .inl (relocate_changes s f role)
  | setOptions f o =>
    obtain ⟨u, set, same⟩ := map_eq_ok.mp done
    cases same
    exact .inl (.single (.optioned (setOptions_ok set)))

end Session

end PrinterWiring
