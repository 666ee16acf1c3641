import PrinterWiring.Proofs.Pin.Resolved
import PrinterWiring.Proofs.Session.Replay

/-!
# What an assignment does

Seven checks stand before an assignment (`AssignCheck`), and the first of them that fails decides how it is refused. If
none fails, the slot has the port already, or it is wired to it and nothing else changes (`assign_by_checks`). That a
port might lack a pin is none of the checks: every port resolves.
-/

namespace PrinterWiring

/-- The first port of a board that goes by an id, up to letter case. -/
def Board.Names (b : Board) (id : String) (p : Port) : Prop :=
  ∃ before after, b.ports = before ++ p :: after ∧ Text.SameLetters p.id id ∧
    ∀ q ∈ before, ¬ Text.SameLetters q.id id

private theorem Board.port?_eq_some {b : Board} {id : String} {p : Port} : b.port? id = some p ↔ b.Names id p := by
  simp only [port?, List.find?_eq_some_iff_append, Bool.not_eq_true', ← Bool.not_eq_true, Text.sameFolded_iff, Names]
  constructor
  · rintro ⟨letters, before, after, split, others⟩
    exact ⟨before, after, split, letters, others⟩
  · rintro ⟨before, after, split, letters, others⟩
    exact ⟨letters, before, after, split, others⟩

private theorem Board.port?_eq_none {b : Board} {id : String} :
    b.port? id = none ↔ ∀ p ∈ b.ports, ¬ Text.SameLetters p.id id := by
  simp only [port?, List.find?_eq_none, Text.sameFolded_iff]

/-- A board has at most one port of a name. -/
theorem Board.Names.unique {b : Board} {id : String} {p q : Port} (first : b.Names id p) (second : b.Names id q) :
    p = q :=
  Option.some.inj ((port?_eq_some.mpr first).symm.trans (port?_eq_some.mpr second))

namespace Session

/-! ## Owners -/

/-- A slot uses a port, up to the letter case of its id. -/
def Uses (s : Session) (role : Role) (id : String) (k : SlotKey) : Prop :=
  ∃ a, s.port? k = some a ∧ a.role = role ∧ Text.SameLetters a.port id

/-- Of the slots that use a port the last one owns it. -/
def Owns (s : Session) (role : Role) (id : String) (k : SlotKey) : Prop :=
  s.Uses role id k ∧ ∀ j, s.Uses role id j → Enumerated.position j ≤ Enumerated.position k

variable {c : Catalog} {s t : Session} {role : Role} {id : String} {k : SlotKey}

private theorem assignments_rising (s : Session) :
    s.assignments.Pairwise fun a b => Enumerated.position a.key < Enumerated.position b.key := by
  refine List.Pairwise.filterMap s.assignment? (fun k j less a first b second => ?_) Enumerated.pairwise_all
  obtain ⟨_, _, rfl⟩ := Option.map_eq_some_iff.mp first
  obtain ⟨_, _, rfl⟩ := Option.map_eq_some_iff.mp second
  exact less

/-- A port has no owner just if no slot uses it. -/
theorem owner?_eq_none : s.registry.owner? role id = none ↔ ∀ k, ¬ s.Uses role id k := by
  rw [Registry.owner?, Option.map_eq_none_iff, List.find?_eq_none]
  constructor
  · rintro unused k ⟨p, held, same⟩
    obtain ⟨a, listed, -, rfl⟩ := exists_mem_assignments held
    exact unused a (List.mem_reverse.mpr listed) (uses_iff.mpr same)
  · intro unused a listed used
    exact unused a.key ⟨a.port, port?_of_mem_assignments (List.mem_reverse.mp listed), uses_iff.mp used⟩

private theorem owns_of_owner? (owned : s.registry.owner? role id = some k) : s.Owns role id k := by
  refine ⟨port?_of_owner? owned, ?_⟩
  rintro j ⟨p, held, same⟩
  obtain ⟨x, found, rfl⟩ := Option.map_eq_some_iff.mp owned
  obtain ⟨_, before, after, split, others⟩ := List.find?_eq_some_iff_append.mp found
  obtain ⟨y, listed, rfl, rfl⟩ := exists_mem_assignments held
  have inside : y ∈ before ++ x :: after := split ▸ List.mem_reverse.mpr listed
  have falling : (before ++ x :: after).Pairwise fun a b =>
      Enumerated.position b.key < Enumerated.position a.key := split ▸ List.pairwise_reverse.mpr (assignments_rising s)
  rcases List.mem_append.mp inside with first | rest
  · exact absurd (uses_iff.mpr same) (by simpa using others y first)
  · rcases List.mem_cons.mp rest with rfl | later
    · exact le_rfl
    · exact ((List.pairwise_cons.mp (List.pairwise_append.mp falling).2.1).1 y later).le

theorem Owns.unique {j : SlotKey} (first : s.Owns role id j) (second : s.Owns role id k) : j = k :=
  Enumerated.position_inj.mp (le_antisymm (second.2 j first.1) (first.2 k second.1))

/-- The owner of a port is the last slot that uses it. -/
theorem owner?_eq_some : s.registry.owner? role id = some k ↔ s.Owns role id k := by
  refine ⟨owns_of_owner?, fun owns => ?_⟩
  cases owned : s.registry.owner? role id with
  | none => exact absurd owns.1 (owner?_eq_none.mp owned k)
  | some j => rw [(owns_of_owner? owned).unique owns]

end Session

/-! ## The checks -/

/-- What is checked before an assignment. -/
inductive AssignCheck where
  /-- A secondary port is for functions that allow one. -/
  | secondaryAllowed
  /-- It comes after the primary port. -/
  | primaryThere
  /-- A board is selected for the role. -/
  | boardSelected
  /-- The catalog has that board. -/
  | boardKnown
  /-- The board has the port. -/
  | portThere
  /-- The port is of the category that the function needs. -/
  | categoryFits
  /-- No other slot owns the port. -/
  | portFree

/-- The checks in the order in which they are made. -/
def AssignCheck.inOrder : List AssignCheck :=
  [secondaryAllowed, primaryThere, boardSelected, boardKnown, portThere, categoryFits, portFree]

namespace Session

/-- The port that a record asks for, on the board that is selected for its role. -/
def Offers (c : Catalog) (s : Session) (r : PortRecord) (p : Port) : Prop :=
  ∃ id b, s.board? r.role = some id ∧ c.board? id = some b ∧ b.Names r.port p

/-- A check of the assignment that a record asks for fails with an error. -/
def FailsCheck (c : Catalog) (s : Session) (r : PortRecord) : AssignCheck → WiringError → Prop
  | .secondaryAllowed, e => r.slot = .secondary ∧ r.function.allowsSecondary = false ∧ e = .noSecondary r.function
  | .primaryThere, e => r.slot = .secondary ∧ s.port? ⟨r.function, .primary⟩ = none ∧ e = .primaryMissing r.function
  | .boardSelected, e => s.board? r.role = none ∧ e = .noBoard r.role
  | .boardKnown, e => ∃ id, s.board? r.role = some id ∧ c.board? id = none ∧ e = .unknownBoard id
  | .portThere, e => ∃ id b, s.board? r.role = some id ∧ c.board? id = some b ∧
      (∀ p ∈ b.ports, ¬ Text.SameLetters p.id r.port) ∧ e = .unknownPort r.role b.id r.port
  | .categoryFits, e => ∃ p, s.Offers c r p ∧ p.category ≠ r.function.category ∧
      e = .wrongCategory r.function p.category p.id
  | .portFree, e => ∃ p owner, s.Offers c r p ∧ s.Owns r.role p.id owner ∧ owner ≠ r.key ∧
      e = .portTaken r.role p.id owner

/-- The first check that fails, fails with this error. -/
def Refuses (c : Catalog) (s : Session) (r : PortRecord) (e : WiringError) : Prop :=
  ∃ before check after, AssignCheck.inOrder = before ++ check :: after ∧ s.FailsCheck c r check e ∧
    ∀ earlier ∈ before, ∀ e', ¬ s.FailsCheck c r earlier e'

/-- No check fails. -/
def Passes (c : Catalog) (s : Session) (r : PortRecord) : Prop := ∀ check e, ¬ s.FailsCheck c r check e

/-- `t` is `s` with a wiring in a slot. A primary port also places its function. -/
structure Gains (s : Session) (k : SlotKey) (w : Wiring) (t : Session) : Prop where
  held : t.wiring.get? k = some w
  others : ∀ j, j ≠ k → t.wiring.get? j = s.wiring.get? j
  placed : ∀ f, t.locations.get? f =
    if k = ⟨f, .primary⟩ then some w.port.role else s.locations.get? f
  boards : t.boards = s.boards
  options : t.options = s.options
  settings : t.settings = s.settings

/-- What becomes of an assignment that passes its checks. -/
inductive Assigns (c : Catalog) (s : Session) (r : PortRecord) : Session → AssignResult → Prop where
  /-- The slot has the port already. -/
  | unchanged {p : Port} (offers : s.Offers c r p) (own : s.Owns r.role p.id r.key) : Assigns c s r s .unchanged
  /-- Nothing has the port yet: the slot gets it in place of what it had. -/
  | wired {p : Port} {pins : ResolvedPins} {t : Session} (offers : s.Offers c r p)
      (free : ∀ k, ¬ s.Uses r.role p.id k) (resolved : p.resolve r.function r.role (s.optionsOf r.function) = .ok pins)
      (gains : s.Gains r.key ⟨⟨r.role, p.id⟩, p.category, pins⟩ t) :
      Assigns c s r t (match s.port? r.key with
        | some previous => .reassigned previous
        | none => .assigned)

variable {c : Catalog} {s t u : Session} {r : PortRecord} {p q : Port} {e e' : WiringError} {check : AssignCheck}
  {k : SlotKey} {w : Wiring} {a b : AssignResult} {id : String} {board : Board}

/-! ## One outcome only -/

theorem Offers.unique (first : s.Offers c r p) (second : s.Offers c r q) : p = q := by
  obtain ⟨id, b, selected, known, names⟩ := first
  obtain ⟨id', b', selected', known', names'⟩ := second
  cases selected.symm.trans selected'
  cases known.symm.trans known'
  exact names.unique names'

theorem FailsCheck.unique (first : s.FailsCheck c r check e) (second : s.FailsCheck c r check e') : e = e' := by
  cases check with
  | secondaryAllowed | primaryThere =>
    exact first.2.2.trans second.2.2.symm
  | boardSelected => exact first.2.trans second.2.symm
  | boardKnown =>
    obtain ⟨id, selected, _, rfl⟩ := first
    obtain ⟨id', selected', _, rfl⟩ := second
    cases selected.symm.trans selected'
    rfl
  | portThere =>
    obtain ⟨id, b, selected, known, _, rfl⟩ := first
    obtain ⟨id', b', selected', known', _, rfl⟩ := second
    cases selected.symm.trans selected'
    cases known.symm.trans known'
    rfl
  | categoryFits =>
    obtain ⟨p, offers, _, rfl⟩ := first
    obtain ⟨q, offers', _, rfl⟩ := second
    rw [offers.unique offers']
  | portFree =>
    obtain ⟨p, owner, offers, owns, _, rfl⟩ := first
    obtain ⟨q, owner', offers', owns', _, rfl⟩ := second
    cases offers.unique offers'
    rw [owns.unique owns']

theorem Refuses.unique (first : s.Refuses c r e) (second : s.Refuses c r e') : e = e' := by
  classical
  have found (e : WiringError) (refuses : s.Refuses c r e) : ∃ check, s.FailsCheck c r check e ∧
      AssignCheck.inOrder.find? (fun check => decide (∃ e, s.FailsCheck c r check e)) = some check := by
    obtain ⟨before, check, after, order, fails, passed⟩ := refuses
    refine ⟨check, fails, List.find?_eq_some_iff_append.mpr ⟨decide_eq_true ⟨e, fails⟩, before, after, order, ?_⟩⟩
    simpa using passed
  obtain ⟨check, fails, here⟩ := found e first
  obtain ⟨check', fails', here'⟩ := found e' second
  cases here.symm.trans here'
  exact fails.unique fails'

theorem Gains.unique (first : s.Gains k w t) (second : s.Gains k w u) : t = u := by
  have wiring : t.wiring = u.wiring := by
    refine Table.ext fun j => ?_
    by_cases same : j = k
    · rw [same, first.held, second.held]
    · rw [first.others j same, second.others j same]
  have locations : t.locations = u.locations := Table.ext fun f => by rw [first.placed, second.placed]
  exact ext_of_parts (first.boards.trans second.boards.symm) wiring (first.options.trans second.options.symm) locations
    (first.settings.trans second.settings.symm)

theorem Assigns.unique (first : s.Assigns c r t a) (second : s.Assigns c r u b) : t = u ∧ a = b := by
  cases first with
  | unchanged offers own =>
    cases second with
    | unchanged _ _ => exact ⟨rfl, rfl⟩
    | wired offers' free _ _ => exact absurd (offers.unique offers' ▸ own.1) (free r.key)
  | wired offers free resolved gains =>
    cases second with
    | unchanged offers' own => exact absurd (offers'.unique offers ▸ own.1) (free r.key)
    | wired offers' _ resolved' gains' =>
      cases offers.unique offers'
      cases resolved.symm.trans resolved'
      exact ⟨gains.unique gains', rfl⟩

/-! ## The checks one by one -/

private theorem wire_gains (s : Session) (k : SlotKey) (w : Wiring) : s.Gains k w (s.wire k w) where
  held := by rw [wire_wiring, Table.get?_insert, if_pos rfl]
  others j other := by rw [wire_wiring, Table.get?_insert, if_neg other]
  placed f := by
    obtain ⟨g, slot⟩ := k
    rw [wire_locations]
    cases slot with
    | primary => simp [Table.get?_insert, eq_comm]
    | secondary => simp
  boards := wire_boards ..
  options := wire_options ..
  settings := wire_settings ..

private theorem admitted_passes (admitted : s.admits r.function r.slot = .ok ()) :
    ∀ check ∈ [AssignCheck.secondaryAllowed, .primaryThere], ∀ e, ¬ s.FailsCheck c r check e := by
  have allowed := admits_ok.mp admitted
  simp only [List.mem_cons, List.not_mem_nil, or_false]
  rintro check (rfl | rfl) e ⟨second, fails, _⟩
  · rw [(allowed second).1] at fails
    cases fails
  · obtain ⟨a, held⟩ := isAssigned_iff.mp (allowed second).2
    cases fails.symm.trans held

private theorem refuses_of_admits (refused : s.admits r.function r.slot = .error e) : s.Refuses c r e := by
  unfold admits at refused
  split_ifs at refused with second allowed assigned
  · cases refused
    have unwired : s.port? ⟨r.function, .primary⟩ = none :=
      Option.eq_none_iff_forall_ne_some.mpr fun a held => assigned (isAssigned_iff.mpr ⟨a, held⟩)
    refine ⟨[.secondaryAllowed], .primaryThere, _, rfl, ⟨second, unwired, rfl⟩, ?_⟩
    simp only [List.mem_singleton]
    rintro _ rfl e' ⟨_, denied, _⟩
    rw [allowed] at denied
    cases denied
  · cases refused
    exact ⟨[], .secondaryAllowed, _, rfl, ⟨second, Bool.not_eq_true _ ▸ allowed, rfl⟩, by simp⟩

private theorem selected_passes (selected : s.board? r.role = some id) (e : WiringError) :
    ¬ s.FailsCheck c r .boardSelected e := by
  rintro ⟨none, _⟩
  cases none.symm.trans selected

private theorem known_passes (selected : s.board? r.role = some id) (known : c.board? id = some board)
    (e : WiringError) :
    ¬ s.FailsCheck c r .boardKnown e := by
  rintro ⟨_, selected', unknown, _⟩
  cases selected.symm.trans selected'
  cases unknown.symm.trans known

private theorem offers_passes (offers : s.Offers c r p) (e : WiringError) : ¬ s.FailsCheck c r .portThere e := by
  obtain ⟨id, b, selected, known, before, after, split, letters, _⟩ := offers
  rintro ⟨_, _, selected', known', missing, _⟩
  cases selected.symm.trans selected'
  cases known.symm.trans known'
  exact missing p (by simp [split]) letters

private theorem fitting_passes (offers : s.Offers c r p) (fits : p.category = r.function.category) (e : WiringError) :
    ¬ s.FailsCheck c r .categoryFits e := by
  rintro ⟨q, offers', differs, _⟩
  exact differs (offers.unique offers' ▸ fits)

/-- A port is offered if the board has it and its category fits. -/
theorem offered_iff :
    s.offered c r.function r.role r.port = .ok p ↔ s.Offers c r p ∧ p.category = r.function.category := by
  rw [offered_ok]
  constructor
  · rintro ⟨id, b, selected, known, found, fits⟩
    exact ⟨⟨id, b, selected, known, Board.port?_eq_some.mp found⟩, fits⟩
  · rintro ⟨⟨id, b, selected, known, names⟩, fits⟩
    exact ⟨id, b, selected, known, Board.port?_eq_some.mpr names, fits⟩

private theorem refuses_of_offered (admitted : s.admits r.function r.slot = .ok ())
    (refused : s.offered c r.function r.role r.port = .error e) : s.Refuses c r e := by
  have first := admitted_passes (c := c) admitted
  simp only [List.forall_mem_cons, List.not_mem_nil, false_implies, implies_true, and_true] at first
  obtain ⟨allowed, primary⟩ := first
  unfold offered at refused
  simp only [bind, Except.bind, pure, Except.pure, throw, throwThe, MonadExceptOf.throw] at refused
  cases selected : s.board? r.role with
  | none =>
    simp only [selected] at refused
    cases refused
    refine ⟨[.secondaryAllowed, .primaryThere], .boardSelected, _, rfl, ⟨selected, rfl⟩, ?_⟩
    simp [allowed, primary]
  | some id =>
    have passed := selected_passes (c := c) selected
    simp only [selected] at refused
    cases known : c.board? id with
    | none =>
      simp only [Catalog.board, known] at refused
      cases refused
      refine ⟨[.secondaryAllowed, .primaryThere, .boardSelected], .boardKnown, _, rfl, ⟨id, selected, known, rfl⟩, ?_⟩
      simp [allowed, primary, passed]
    | some b =>
      have listed := known_passes selected known
      simp only [Catalog.board, known] at refused
      cases found : b.port? r.port with
      | none =>
        simp only [found] at refused
        cases refused
        refine ⟨[.secondaryAllowed, .primaryThere, .boardSelected, .boardKnown], .portThere, _, rfl,
          ⟨id, b, selected, known, Board.port?_eq_none.mp found, rfl⟩, ?_⟩
        simp [allowed, primary, passed, listed]
      | some p =>
        have offers : s.Offers c r p := ⟨id, b, selected, known, Board.port?_eq_some.mp found⟩
        simp only [found] at refused
        split_ifs at refused with fits
        cases refused
        refine ⟨[.secondaryAllowed, .primaryThere, .boardSelected, .boardKnown, .portThere], .categoryFits, _, rfl,
          ⟨p, offers, fits, rfl⟩, ?_⟩
        simp [allowed, primary, passed, listed, offers_passes offers]

private theorem passes_of_offers (admitted : s.admits r.function r.slot = .ok ()) (offers : s.Offers c r p)
    (fits : p.category = r.function.category) (check : AssignCheck) (other : check ≠ .portFree) (e : WiringError) :
    ¬ s.FailsCheck c r check e := by
  obtain ⟨id, b, selected, known, _⟩ := id offers
  cases check with
  | secondaryAllowed => exact admitted_passes admitted _ (by simp) e
  | primaryThere => exact admitted_passes admitted _ (by simp) e
  | boardSelected => exact selected_passes selected e
  | boardKnown => exact known_passes selected known e
  | portThere => exact offers_passes offers e
  | categoryFits => exact fitting_passes offers fits e
  | portFree => exact absurd rfl other

/-! ## The outcome -/

/-- A port that cannot be claimed belongs to another slot. -/
theorem refuses_of_claim (admitted : s.admits r.function r.slot = .ok ()) (offers : s.Offers c r p)
    (fits : p.category = r.function.category) (refused : s.claim r.function r.role r.slot p = .error e) :
    s.Refuses c r e := by
  unfold claim at refused
  cases owned : s.registry.owner? r.role p.id with
  | some owner =>
    simp only [owned] at refused
    split_ifs at refused with own
    cases refused
    refine ⟨[.secondaryAllowed, .primaryThere, .boardSelected, .boardKnown, .portThere, .categoryFits], .portFree, _, rfl,
      ⟨p, owner, offers, owner?_eq_some.mp owned, own, rfl⟩, ?_⟩
    intro earlier before
    exact passes_of_offers admitted offers fits earlier (by rintro rfl; simp at before)
  | none =>
    obtain ⟨pins, resolved⟩ := p.exists_resolve r.function r.role (s.optionsOf r.function)
    simp only [owned, resolved] at refused
    cases refused

private theorem assigns_of_claim (offers : s.Offers c r p) (done : s.claim r.function r.role r.slot p = .ok (t, a)) :
    s.Assigns c r t a := by
  unfold claim at done
  cases owned : s.registry.owner? r.role p.id with
  | some owner =>
    simp only [owned] at done
    split_ifs at done with own
    cases done
    subst own
    exact .unchanged offers (owner?_eq_some.mp owned)
  | none =>
    obtain ⟨pins, resolved⟩ := p.exists_resolve r.function r.role (s.optionsOf r.function)
    simp only [owned, resolved] at done
    cases done
    exact .wired offers (owner?_eq_none.mp owned) resolved (wire_gains ..)

private theorem refuses_of_assign (refused : s.assign c r.function r.role r.port r.slot = .error e) :
    s.Refuses c r e := by
  rw [assign_eq] at refused
  cases admitted : s.admits r.function r.slot with
  | error e' =>
    rw [admitted] at refused
    cases refused
    exact refuses_of_admits admitted
  | ok _ =>
    cases offered : s.offered c r.function r.role r.port with
    | error e' =>
      rw [admitted, offered] at refused
      cases refused
      exact refuses_of_offered admitted offered
    | ok p =>
      rw [admitted, offered] at refused
      obtain ⟨offers, fits⟩ := offered_iff.mp offered
      exact refuses_of_claim admitted offers fits refused

private theorem assigns_of_assign (done : s.assign c r.function r.role r.port r.slot = .ok (t, a)) :
    s.Passes c r ∧ s.Assigns c r t a := by
  simp only [assign_eq, bind_eq_ok] at done
  obtain ⟨_, admitted, p, offered, claimed⟩ := done
  obtain ⟨offers, fits⟩ := offered_iff.mp offered
  have assigns := assigns_of_claim offers claimed
  refine ⟨fun check e => ?_, assigns⟩
  by_cases last : check = .portFree
  · subst last
    rintro ⟨q, owner, offers', owns, other, _⟩
    cases offers.unique offers'
    cases assigns with
    | unchanged offers' own =>
      cases offers.unique offers'
      exact other (owns.unique own)
    | wired offers' free _ _ =>
      cases offers.unique offers'
      exact free owner owns.1
  · exact passes_of_offers admitted offers fits check last e

theorem Gains.port? (gains : s.Gains k w t) (j : SlotKey) :
    t.port? j = if j = k then some w.port else s.port? j := by
  unfold Session.port?
  split_ifs with same
  · rw [same, gains.held]
    rfl
  · rw [gains.others j same]

private theorem Gains.offers_iff (gains : s.Gains k w t) : t.Offers c r p ↔ s.Offers c r p := by
  simp only [Offers, board?, gains.boards]

/-- A port that nothing has had is owned by the slot that gets it. -/
theorem Gains.owns (gains : s.Gains k w t) (free : ∀ j, ¬ s.Uses w.port.role w.port.port j) :
    t.Owns w.port.role w.port.port k := by
  refine ⟨⟨w.port, by rw [gains.port?, if_pos rfl], rfl, .refl _⟩, ?_⟩
  rintro j ⟨x, held, same⟩
  rw [gains.port?] at held
  split_ifs at held with here
  · rw [here]
  · exact absurd ⟨x, held, same⟩ (free j)

/-- What has passed its checks passes them again with the port in its slot. -/
theorem Gains.passes (gains : s.Gains r.key w t) (passes : s.Passes c r) (offers : t.Offers c r p)
    (own : t.Owns r.role p.id r.key) : t.Passes c r := by
  intro check e fails
  cases check with
  | secondaryAllowed => exact passes .secondaryAllowed e fails
  | primaryThere =>
    obtain ⟨second, none, same⟩ := fails
    have other : (⟨r.function, .primary⟩ : SlotKey) ≠ r.key := by
      rw [PortRecord.key, second]
      simp
    rw [gains.port?, if_neg other] at none
    exact passes .primaryThere e ⟨second, none, same⟩
  | boardSelected =>
    refine passes .boardSelected e ?_
    simpa only [FailsCheck, board?, gains.boards] using fails
  | boardKnown =>
    refine passes .boardKnown e ?_
    simpa only [FailsCheck, board?, gains.boards] using fails
  | portThere =>
    refine passes .portThere e ?_
    simpa only [FailsCheck, board?, gains.boards] using fails
  | categoryFits =>
    refine passes .categoryFits e ?_
    simpa only [FailsCheck, gains.offers_iff] using fails
  | portFree =>
    obtain ⟨q, owner, offers', owns, other, _⟩ := fails
    cases offers.unique offers'
    exact other (owns.unique own)

/-- An assignment is carried out just if all checks pass. -/
theorem assign_eq_ok :
    s.assign c r.function r.role r.port r.slot = .ok (t, a) ↔ s.Passes c r ∧ s.Assigns c r t a := by
  refine ⟨assigns_of_assign, fun ⟨passes, assigns⟩ => ?_⟩
  cases done : s.assign c r.function r.role r.port r.slot with
  | error e =>
    obtain ⟨_, check, _, _, fails, _⟩ := refuses_of_assign done
    exact absurd fails (passes check e)
  | ok x =>
    obtain ⟨u, b⟩ := x
    obtain ⟨rfl, rfl⟩ := assigns.unique (assigns_of_assign done).2
    rfl

/-- An assignment is refused by the first check that fails. -/
theorem assign_eq_error : s.assign c r.function r.role r.port r.slot = .error e ↔ s.Refuses c r e := by
  refine ⟨refuses_of_assign, fun refuses => ?_⟩
  cases done : s.assign c r.function r.role r.port r.slot with
  | error e' => rw [(refuses_of_assign done).unique refuses]
  | ok x =>
    obtain ⟨_, check, _, _, fails, _⟩ := refuses
    exact absurd fails ((assigns_of_assign (t := x.1) (a := x.2) done).1 check e)

/-- What has been assigned can be assigned again, and this changes nothing. -/
theorem assign_again (done : s.assign c r.function r.role r.port r.slot = .ok (t, a)) :
    t.assign c r.function r.role r.port r.slot = .ok (t, .unchanged) := by
  obtain ⟨passes, assigns⟩ := assigns_of_assign done
  cases assigns with
  | unchanged offers own => exact done
  | wired offers free resolved gains =>
    have offers' := gains.offers_iff.mpr offers
    have own := gains.owns free
    exact assign_eq_ok.mpr ⟨gains.passes passes offers' own, .unchanged offers' own⟩

/-- No assignment is refused for a pin: the ports of a board have the pins of their category. -/
theorem Refuses.ne_pinNotWired (refuses : s.Refuses c r e) (port : String) (name : PinName) :
    e ≠ .pinNotWired port name := by
  obtain ⟨_, check, _, _, fails, _⟩ := refuses
  rintro rfl
  cases check <;> simp [FailsCheck] at fails

/-- An assignment is refused with the error of the first check that fails, and it goes through exactly if none does, with
one outcome. A refused one leaves the session alone and never complains about a missing pin, and one that went through
changes nothing when it is repeated. -/
theorem assign_by_checks (c : Catalog) (s : Session) (r : PortRecord) :
    (∀ e, s.assign c r.function r.role r.port r.slot = .error e ↔ s.Refuses c r e) ∧
      (∀ t a, s.assign c r.function r.role r.port r.slot = .ok (t, a) ↔ s.Passes c r ∧ s.Assigns c r t a) ∧
      (∀ e, s.Refuses c r e → s.after c (.edit (.assign r.function r.role r.port r.slot)) = s ∧
        ∀ port name, e ≠ .pinNotWired port name) ∧
      ∀ t a, s.assign c r.function r.role r.port r.slot = .ok (t, a) →
        t.assign c r.function r.role r.port r.slot = .ok (t, .unchanged) := by
  refine ⟨fun e => assign_eq_error, fun t a => assign_eq_ok, fun e refuses => ⟨?_, refuses.ne_pinNotWired⟩,
    fun t a => assign_again⟩
  simp only [after, perform, assign_eq_error.mpr refuses, Except.map]

end Session

end PrinterWiring
