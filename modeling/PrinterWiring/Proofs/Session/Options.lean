import PrinterWiring.Proofs.Session.Assigning

/-!
# Pin options in any order

Setting the pin options of a function is all or nothing, and it fails only where a port of the function has gone. In
reachable sessions no port has, and since the pins of a slot follow from the boards, the ports and the options
(`Coherent.ext`), it does not matter whether options are set before or after a port is assigned
(`setOptions_in_any_order`).
-/

namespace PrinterWiring.Session

variable {c : Catalog} {s t u : Session} {f : PrinterFunction} {o : PinOptions} {k : SlotKey} {w : Wiring} {p : Port}

/-! ## All or nothing -/

/-- The selected board of a wiring is known and has its port. -/
def Finds (c : Catalog) (s : Session) (w : Wiring) (p : Port) : Prop :=
  ∃ id b, s.board? w.port.role = some id ∧ c.board? id = some b ∧ b.port? w.port.port = some p

/-- `t` is `s` with other options of a function, and with the pins in its slots resolved under them. Standard options
leave no entry. -/
structure Retuned (c : Catalog) (s : Session) (f : PrinterFunction) (o : PinOptions) (t : Session) : Prop where
  boards : t.boards = s.boards
  locations : t.locations = s.locations
  settings : t.settings = s.settings
  options : ∀ g, t.options.get? g =
    if g = f then (if o.isStandard then none else some o) else s.options.get? g
  unwired : ∀ slot, s.wiring.get? ⟨f, slot⟩ = none → t.wiring.get? ⟨f, slot⟩ = none
  own : ∀ slot w, s.wiring.get? ⟨f, slot⟩ = some w → ∃ p pins, s.Finds c w p ∧
    p.resolve f w.port.role o = .ok pins ∧ t.wiring.get? ⟨f, slot⟩ = some { w with pins := pins }
  others : ∀ k : SlotKey, k.function ≠ f → t.wiring.get? k = s.wiring.get? k

private theorem exists_rewire : (∃ x, s.rewire c o k = .ok x) ↔ ∀ w, s.wiring.get? k = some w → ∃ p, s.Finds c w p := by
  constructor
  · rintro ⟨x, done⟩ w held
    rcases rewire_ok done with ⟨none, _⟩ | ⟨w', id, b, p, _, held', selected, known, found, _⟩
    · cases none.symm.trans held
    · cases held'.symm.trans held
      exact ⟨p, id, b, selected, known, found⟩
  · intro finds
    unfold rewire
    cases held : s.wiring.get? k with
    | none => exact ⟨none, rfl⟩
    | some w =>
      obtain ⟨p, id, b, selected, known, found⟩ := finds w held
      obtain ⟨pins, resolved⟩ := p.exists_resolve k.function w.port.role o
      refine ⟨some { w with pins := pins }, ?_⟩
      simp only [selected, Catalog.board_eq_ok.mpr known, bind, Except.bind, found, resolved]
      rfl

private theorem exists_setOptions :
    (∃ t, s.setOptions c f o = .ok t) ↔ ∀ slot w, s.wiring.get? ⟨f, slot⟩ = some w → ∃ p, s.Finds c w p := by
  constructor
  · rintro ⟨t, done⟩ slot
    exact exists_rewire.mp ⟨_, (setOptions_ok done).own slot⟩
  · intro finds
    obtain ⟨x, first⟩ := exists_rewire (o := o).mpr (finds .primary)
    obtain ⟨y, second⟩ := exists_rewire (o := o).mpr (finds .secondary)
    exact ⟨_, by simp only [setOptions, bind, Except.bind, first, second]; rfl⟩

private theorem setOptions_settings (done : s.setOptions c f o = .ok t) : t.settings = s.settings := by
  simp only [setOptions, bind_eq_ok] at done
  obtain ⟨_, _, _, _, same⟩ := done
  cases same
  rfl

/-- Setting options retunes the pins of the function and changes nothing else. -/
theorem retuned_of_setOptions (done : s.setOptions c f o = .ok t) : s.Retuned c f o t := by
  have changed := setOptions_ok done
  refine ⟨changed.boards, changed.locations, setOptions_settings done, fun g => ?_, fun slot none => ?_,
    fun slot w held => ?_, changed.others⟩
  · rw [changed.options, putOptions, Table.get?_put]
  · rcases rewire_ok (changed.own slot) with ⟨_, after⟩ | ⟨w, _, _, _, _, held, _⟩
    · exact after
    · cases none.symm.trans held
  · rcases rewire_ok (changed.own slot) with ⟨none, _⟩ |
      ⟨w', id, b, p, pins, held', selected, known, found, resolved, after⟩
    · cases none.symm.trans held
    · cases held'.symm.trans held
      exact ⟨p, pins, ⟨id, b, selected, known, found⟩, resolved, after⟩

/-! ## Pins that follow from the rest -/

private theorem wiring_eq {v : Wiring} (port : v.port = w.port) (category : v.category = w.category)
    (pins : v.pins = w.pins) : v = w := by
  cases v
  cases w
  simp_all

/-- Pins are no state of their own: sessions that agree in everything else agree in them, too. -/
theorem Coherent.ext (first : s.Coherent c) (second : t.Coherent c) (boards : s.boards = t.boards)
    (ports : ∀ k, s.port? k = t.port? k) (options : s.options = t.options) (locations : s.locations = t.locations)
    (settings : s.settings = t.settings) : s = t := by
  refine ext_of_parts boards (Table.ext fun k => ?_) options locations settings
  have same := ports k
  unfold port? at same
  cases here : s.wiring.get? k with
  | none =>
    rw [here] at same
    exact (Option.map_eq_none_iff.mp same.symm).symm
  | some w =>
    rw [here] at same
    obtain ⟨v, there, port⟩ := Option.map_eq_some_iff.mp same.symm
    obtain ⟨id, b, p, selected, known, found, _, category, resolved⟩ := first.backed k w here
    obtain ⟨id', b', p', selected', known', found', _, category', resolved'⟩ := second.backed k v there
    rw [port] at selected' found' resolved'
    rw [show t.board? w.port.role = s.board? w.port.role by rw [board?, board?, boards]] at selected'
    rw [show t.optionsOf k.function = s.optionsOf k.function by rw [optionsOf, optionsOf, options]] at resolved'
    cases selected.symm.trans selected'
    cases known.symm.trans known'
    cases found.symm.trans found'
    rw [there, wiring_eq port (category'.symm.trans category) (Except.ok.inj (resolved'.symm.trans resolved))]

/-! ## Any order -/

/-- Options make no difference to who has which port. -/
theorem Reoptioned.registry (done : s.Reoptioned c f o t) : t.registry = s.registry := by
  have same (k : SlotKey) : t.assignment? k = s.assignment? k := by
    unfold assignment?
    rcases done.get? k with ⟨before, after⟩ | ⟨w, pins, before, after⟩ <;> simp [before, after]
  simp only [Session.registry, assignments, funext same]

/-- An assignment goes the same way under other options of a function. -/
theorem assign_reoptioned (done : s.Reoptioned c f o t) (g : PrinterFunction) (role : Role) (port : String)
    (slot : Slot) :
    (∃ e, s.assign c g role port slot = .error e ∧ t.assign c g role port slot = .error e) ∨
      (s.assign c g role port slot = .ok (s, .unchanged) ∧ t.assign c g role port slot = .ok (t, .unchanged)) ∨
      ∃ v w a, v.port = w.port ∧ s.assign c g role port slot = .ok (s.wire ⟨g, slot⟩ v, a) ∧
        t.assign c g role port slot = .ok (t.wire ⟨g, slot⟩ w, a) := by
  have admits : t.admits g slot = s.admits g slot := by
    have assigned : t.isAssigned g = s.isAssigned g := by
      rw [Bool.eq_iff_iff, isAssigned_iff, isAssigned_iff, done.port?]
    rw [Session.admits, Session.admits, assigned]
  have offered : t.offered c g role port = s.offered c g role port := by
    rw [Session.offered, Session.offered, board?, board?, done.boards]
  rw [assign_eq, assign_eq, admits, offered]
  cases s.admits g slot with
  | error e => exact .inl ⟨e, rfl, rfl⟩
  | ok _ =>
    cases s.offered c g role port with
    | error e => exact .inl ⟨e, rfl, rfl⟩
    | ok p =>
      simp only [bind, Except.bind, claim, done.registry, done.port?]
      cases s.registry.owner? role p.id with
      | some owner =>
        by_cases own : owner = ⟨g, slot⟩
        · exact .inr (.inl (by simp only [own, if_true, and_self]))
        · refine .inl ⟨.portTaken role p.id owner, ?_⟩
          simp only [own, if_false, and_self]
      | none =>
        obtain ⟨pins, before⟩ := p.exists_resolve g role (s.optionsOf g)
        obtain ⟨pins', after⟩ := p.exists_resolve g role (t.optionsOf g)
        simp only [before, after]
        exact .inr (.inr ⟨⟨⟨role, p.id⟩, p.category, pins⟩, ⟨⟨role, p.id⟩, p.category, pins'⟩, _, rfl, rfl, rfl⟩)

private theorem after_setOptions (done : s.setOptions c f o = .ok t) : s.after c (.edit (.setOptions f o)) = t := by
  simp only [after, perform, done, Except.map]

private theorem after_setOptions_of_error {e : WiringError} (refused : s.setOptions c f o = .error e) :
    s.after c (.edit (.setOptions f o)) = s := by
  simp only [after, perform, refused, Except.map]

private theorem after_assign {g : PrinterFunction} {role : Role} {port : String} {slot : Slot} {a : AssignResult}
    (done : s.assign c g role port slot = .ok (t, a)) : s.after c (.edit (.assign g role port slot)) = t := by
  simp only [after, perform, done, Except.map]

private theorem after_assign_of_error {g : PrinterFunction} {role : Role} {port : String} {slot : Slot}
    {e : WiringError}
    (refused : s.assign c g role port slot = .error e) : s.after c (.edit (.assign g role port slot)) = s := by
  simp only [after, perform, refused, Except.map]

private theorem Coherent.of_setOptions (coherent : s.Coherent c) (done : s.setOptions c f o = .ok t) : t.Coherent c :=
  after_setOptions done ▸ (invariant_coherent c).after coherent _

private theorem Coherent.of_assign {g : PrinterFunction} {role : Role} {port : String} {slot : Slot} {a : AssignResult}
    (coherent : s.Coherent c) (done : s.assign c g role port slot = .ok (t, a)) : t.Coherent c :=
  after_assign done ▸ (invariant_coherent c).after coherent _

/-- Where pins are up to date, options can always be set. -/
theorem Coherent.exists_setOptions (coherent : s.Coherent c) (f : PrinterFunction) (o : PinOptions) :
    ∃ t, s.setOptions c f o = .ok t := by
  refine Session.exists_setOptions.mpr fun slot w held => ?_
  obtain ⟨id, b, p, selected, known, found, _⟩ := coherent.backed _ w held
  exact ⟨p, id, b, selected, known, found⟩

/-- Options that are set over others leave nothing of these. -/
theorem Coherent.setOptions_twice (coherent : s.Coherent c) {o' : PinOptions} (first : s.setOptions c f o = .ok t) :
    t.setOptions c f o' = s.setOptions c f o' := by
  have middle : t.Coherent c := coherent.of_setOptions first
  obtain ⟨u, second⟩ := middle.exists_setOptions f o'
  obtain ⟨v, direct⟩ := coherent.exists_setOptions f o'
  have changed := setOptions_ok first
  have again := setOptions_ok second
  have once := setOptions_ok direct
  have same : u = v := by
    refine Coherent.ext (middle.of_setOptions second) (coherent.of_setOptions direct) ?_ ?_ ?_ ?_ ?_
    · rw [again.boards, changed.boards, once.boards]
    · intro k
      rw [again.port?, changed.port?, once.port?]
    · refine Table.ext fun g => ?_
      simp only [again.options, changed.options, once.options, putOptions, Table.get?_put]
      split_ifs <;> rfl
    · rw [again.locations, changed.locations, once.locations]
    · rw [setOptions_settings second, setOptions_settings first, setOptions_settings direct]
  rw [second, direct, same]

/-- Options and ports are set in any order. -/
theorem Coherent.setOptions_assign (coherent : s.Coherent c) (f : PrinterFunction) (o : PinOptions) (g : PrinterFunction)
    (role : Role) (port : String) (slot : Slot) :
    (s.after c (.edit (.setOptions f o))).after c (.edit (.assign g role port slot)) =
        (s.after c (.edit (.assign g role port slot))).after c (.edit (.setOptions f o)) ∧
      ((s.after c (.edit (.setOptions f o))).assign c g role port slot).map (·.2) =
        (s.assign c g role port slot).map (·.2) := by
  obtain ⟨t, set⟩ := coherent.exists_setOptions f o
  have changed := setOptions_ok set
  rw [after_setOptions set]
  rcases assign_reoptioned changed g role port slot with ⟨e, before, after⟩ | ⟨before, after⟩ |
    ⟨v, w, a, ports, before, after⟩
  · rw [after_assign_of_error before, after_assign_of_error after, after_setOptions set, before, after]
    exact ⟨rfl, rfl⟩
  · rw [after_assign before, after_assign after, after_setOptions set, before, after]
    exact ⟨rfl, rfl⟩
  · have wired : (s.wire ⟨g, slot⟩ v).Coherent c := coherent.of_assign before
    obtain ⟨u, again⟩ := wired.exists_setOptions f o
    have last := setOptions_ok again
    rw [after_assign before, after_assign after, after_setOptions again, before, after]
    refine ⟨Coherent.ext ((coherent.of_setOptions set).of_assign after) (wired.of_setOptions again) ?_ ?_ ?_ ?_ ?_, rfl⟩
    · rw [wire_boards, changed.boards, last.boards, wire_boards]
    · intro k
      rw [wire_port?, changed.port?, last.port?, wire_port?, ports]
    · rw [wire_options, changed.options, last.options, putOptions, putOptions, wire_options]
    · rw [wire_locations, changed.locations, last.locations, wire_locations, ports]
    · rw [wire_settings, setOptions_settings set, setOptions_settings again, wire_settings]

/-- Setting the pin options of a function fails exactly if one of its ports has gone, and then it leaves the session
alone; else it changes the options of the function and the pins in its slots. In a reachable session it never fails, it
leaves nothing of the options before, and it may as well be done before an assignment as after it. -/
theorem setOptions_in_any_order (c : Catalog) (f : PrinterFunction) (o : PinOptions) :
    (∀ s : Session,
      ((∃ t, s.setOptions c f o = .ok t) ↔ ∀ slot w, s.wiring.get? ⟨f, slot⟩ = some w → ∃ p, s.Finds c w p) ∧
        ((∃ e, s.setOptions c f o = .error e ∧ s.after c (.edit (.setOptions f o)) = s) ∨
          ∃ t, s.setOptions c f o = .ok t ∧ s.after c (.edit (.setOptions f o)) = t ∧ s.Retuned c f o t)) ∧
      ∀ ops,
        (∃ t, (reached c ops).setOptions c f o = .ok t ∧
          ∀ o', t.setOptions c f o' = (reached c ops).setOptions c f o') ∧
        ∀ g role port slot,
          reached c (ops ++ [.edit (.setOptions f o), .edit (.assign g role port slot)]) =
              reached c (ops ++ [.edit (.assign g role port slot), .edit (.setOptions f o)]) ∧
            ((reached c (ops ++ [.edit (.setOptions f o)])).assign c g role port slot).map (·.2) =
              ((reached c ops).assign c g role port slot).map (·.2) := by
  refine ⟨fun s => ⟨exists_setOptions, ?_⟩, fun ops => ?_⟩
  · cases done : s.setOptions c f o with
    | error e => exact .inl ⟨e, rfl, after_setOptions_of_error done⟩
    | ok t => exact .inr ⟨t, rfl, after_setOptions done, retuned_of_setOptions done⟩
  · have coherent : (reached c ops).Coherent c := (invariant_coherent c).reached ops
    obtain ⟨t, set⟩ := coherent.exists_setOptions f o
    refine ⟨⟨t, set, fun o' => coherent.setOptions_twice set⟩, fun g role port slot => ?_⟩
    have two (first second : Operation) :
        reached c (ops ++ [first, second]) = ((reached c ops).after c first).after c second := by
      rw [show ops ++ [first, second] = ops ++ [first] ++ [second] by simp, reached_concat, reached_concat]
    rw [two, two, reached_concat]
    exact coherent.setOptions_assign f o g role port slot

end PrinterWiring.Session
