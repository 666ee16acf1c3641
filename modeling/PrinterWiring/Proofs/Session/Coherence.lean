import PrinterWiring.Proofs.Session.History

/-!
# Pins that stay up to date

The pins of a slot are resolved once and then held. What they depend on, the selected board, the port and the
options of the function, is changed by different operations; in every reachable session (`reached_coherent`) the pins
held are nevertheless those that the port resolves to now.
-/

namespace PrinterWiring

namespace Session

/-- The selected boards are known, and each wiring is backed by the one that it is on. -/
structure Coherent (c : Catalog) (s : Session) : Prop where
  known : ∀ role, Known c (s.board? role)
  backed : ∀ k w, s.wiring.get? k = some w → s.Backed c k w

variable {c : Catalog} {s t : Session}

/-- What backs a wiring is its board and the options of its function. -/
theorem Backed.congr {k : SlotKey} {w : Wiring} (board : t.board? w.port.role = s.board? w.port.role)
    (options : t.optionsOf k.function = s.optionsOf k.function) (backed : s.Backed c k w) : t.Backed c k w := by
  unfold Backed at backed ⊢
  rw [board, options]
  exact backed

theorem optionsOf_putOptions (f : PrinterFunction) (o : PinOptions) (g : PrinterFunction) :
    (s.putOptions f o).optionsOf g = if g = f then o else s.optionsOf g := by
  simp only [optionsOf, putOptions, Table.get?_put]
  split_ifs with same standard
  · exact (beq_iff_eq.mp standard).symm
  · rfl
  · rfl

private theorem wire_coherent {k : SlotKey} {w : Wiring} (fits : s.Fits c k w) (coherent : s.Coherent c) :
    (s.wire k w).Coherent c := by
  have board : ∀ role, (s.wire k w).board? role = s.board? role := by simp [board?]
  have options : ∀ f, (s.wire k w).optionsOf f = s.optionsOf f := by simp [optionsOf]
  refine ⟨fun role => board role ▸ coherent.known role, fun j v held => .congr (board _) (options _) ?_⟩
  rw [wire_wiring, Table.get?_insert] at held
  split_ifs at held with here
  · cases held
    exact here ▸ fits.backed
  · exact coherent.backed j v held

private theorem clear_coherent (f : PrinterFunction) (which : SlotChoice) (coherent : s.Coherent c) :
    (s.clear f which).1.Coherent c := by
  refine ⟨coherent.known, fun k w held => .congr rfl rfl ?_⟩
  rw [clear_get?] at held
  split_ifs at held
  exact coherent.backed k w held

private theorem reoptioned_coherent {f : PrinterFunction} {o : PinOptions} (done : s.Reoptioned c f o t)
    (coherent : s.Coherent c) : t.Coherent c := by
  have board : ∀ role, t.board? role = s.board? role := fun role => congrArg (·.get? role) done.boards
  have options : ∀ g, t.optionsOf g = if g = f then o else s.optionsOf g := by
    intro g
    rw [← optionsOf_putOptions, optionsOf, optionsOf, done.options]
  refine ⟨fun role => board role ▸ coherent.known role, fun k w held => ?_⟩
  by_cases own : k.function = f
  · obtain ⟨_, slot⟩ := k
    subst own
    rcases rewire_ok (done.own slot) with ⟨_, after⟩ | ⟨v, id, b, p, pins, before, selected, known, found, resolved, after⟩
    · cases after.symm.trans held
    · cases after.symm.trans held
      obtain ⟨id', b', p', selected', known', found', own', category, _⟩ := coherent.backed _ v before
      cases selected.symm.trans selected'
      cases known.symm.trans known'
      cases found.symm.trans found'
      exact ⟨id, b, p, (board _).trans selected, known, found, own', category, by rw [options, if_pos rfl, resolved]⟩
  · rw [done.others k own] at held
    exact .congr (board _) (by rw [options, if_neg own]) (coherent.backed k w held)

private theorem swapBoard_coherent {role : Role} {id : Option String} (coherent : s.Coherent c) (known : Known c id) :
    (s.swapBoard role id).Coherent c := by
  refine ⟨fun other => ?_, fun k w held => ?_⟩
  · rw [swapBoard_board?]
    split_ifs
    · exact known
    · exact coherent.known other
  · simp only [swapBoard, Table.get?_filter, Option.filter_eq_some_iff, decide_eq_true_eq] at held
    have unchanged : (s.swapBoard role id).board? w.port.role = s.board? w.port.role := by
      rw [swapBoard_board?, if_neg held.2]
    exact .congr unchanged rfl (coherent.backed k w held.1)

/-- Changes and swaps of boards keep all pins up to date. -/
theorem invariant_coherent (c : Catalog) : Invariant c (Coherent c) where
  fresh fresh := ⟨fresh.known, fun k w held => by simp [fresh.unwired] at held⟩
  stable s t coherent change := by
    cases change with
    | wired fits => exact wire_coherent fits coherent
    | cleared f which => exact clear_coherent f which coherent
    | placed _ => exact ⟨coherent.known, fun k w held => .congr rfl rfl (coherent.backed k w held)⟩
    | optioned done => exact reoptioned_coherent done coherent
    | settled _ => exact ⟨coherent.known, fun k w held => .congr rfl rfl (coherent.backed k w held)⟩
  swap coherent known := swapBoard_coherent coherent known

/-- In every reachable session pins are held for exactly the slots that are assigned. The board selected for the role
of an assigned port is known and has that port, with the same id and category, and the pins held are those that it
resolves to for the function, with that role and under the options that the function has now. -/
theorem reached_coherent (c : Catalog) (ops : List Operation) (k : SlotKey) :
    (((reached c ops).pins? k).isSome ↔ ((reached c ops).assignment? k).isSome) ∧
      ∀ a, (reached c ops).assignment? k = some a → ∃ id b p pins, (reached c ops).board? a.port.role = some id ∧
        c.board id = .ok b ∧ b.port? a.port.port = some p ∧ p.id = a.port.port ∧ p.category = a.category ∧
        (reached c ops).pins? k = some pins ∧
        p.resolve k.function a.port.role ((reached c ops).optionsOf k.function) = .ok pins := by
  have coherent : (reached c ops).Coherent c := (invariant_coherent c).reached ops
  constructor
  · simp [pins?, assignment?]
  · intro a held
    obtain ⟨w, wired, rfl⟩ := Option.map_eq_some_iff.mp held
    obtain ⟨id, b, p, selected, known, found, own, category, resolved⟩ := coherent.backed k w wired
    exact ⟨id, b, p, w.pins, selected, Catalog.board_eq_ok.mpr known, found, own, category,
      by rw [pins?, wired]; rfl, resolved⟩

end Session

end PrinterWiring
