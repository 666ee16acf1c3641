import PrinterWiring.Catalog.Builtin
import PrinterWiring.Proofs.Session.History

/-!
# Secondary ports and their primaries

Every change keeps a session `Paired`, and so does every operation but one: selecting another board, or none, for a
role takes away the ports on that role only, so that it strands a secondary port on the other board
(`Operation.Strands`). A history goes through paired sessions as long as none of its operations does this.
-/

namespace PrinterWiring

namespace Session

/-- Every secondary port belongs to a function that allows one and has a primary port. -/
def Paired (s : Session) : Prop :=
  ∀ f a, s.port? ⟨f, .secondary⟩ = some a → f.allowsSecondary = true ∧ s.isAssigned f = true

/-- Every secondary port belongs to a function that allows one. -/
def Allowed (s : Session) : Prop := ∀ f a, s.port? ⟨f, .secondary⟩ = some a → f.allowsSecondary = true

end Session

/-- The operation selects another board, or none, for the role of the primary port of a function whose
secondary port has the other role. -/
def Operation.Strands (c : Catalog) (s : Session) (op : Operation) : Prop :=
  ∃ role id f a b, op = .edit (.selectBoard role id) ∧ Session.Known c id ∧ s.board? role ≠ id ∧
    s.port? ⟨f, .primary⟩ = some a ∧ a.role = role ∧ s.port? ⟨f, .secondary⟩ = some b ∧ b.role ≠ role

namespace Session

variable {c : Catalog} {s t : Session}

/-! ## What changes keep -/

private theorem wire_isAssigned {f : PrinterFunction} (k : SlotKey) (w : Wiring) (assigned : s.isAssigned f = true) :
    (s.wire k w).isAssigned f = true := by
  obtain ⟨a, held⟩ := isAssigned_iff.mp assigned
  rw [isAssigned_iff]
  by_cases here : (⟨f, .primary⟩ : SlotKey) = k
  · exact ⟨w.port, by rw [wire_port?, if_pos here]⟩
  · exact ⟨a, by rw [wire_port?, if_neg here, held]⟩

private theorem wire_paired {k : SlotKey} {w : Wiring} (paired : s.Paired) (fits : s.Fits c k w) :
    (s.wire k w).Paired := by
  intro f a held
  rw [wire_port?] at held
  split_ifs at held with here
  · subst here
    obtain ⟨allows, assigned⟩ := fits.allowed rfl
    exact ⟨allows, wire_isAssigned _ w assigned⟩
  · obtain ⟨allows, assigned⟩ := paired f a held
    exact ⟨allows, wire_isAssigned k w assigned⟩

private theorem secondary_mem_slots {which : SlotChoice} (primary : Slot.primary ∈ which.slots) :
    Slot.secondary ∈ which.slots := by
  cases which <;> simp_all [SlotChoice.slots]

private theorem clear_paired (f : PrinterFunction) (which : SlotChoice) (paired : s.Paired) :
    (s.clear f which).1.Paired := by
  intro g a held
  rw [clear_port?] at held
  split_ifs at held with cleared
  obtain ⟨allows, assigned⟩ := paired g a held
  obtain ⟨b, first⟩ := isAssigned_iff.mp assigned
  refine ⟨allows, isAssigned_iff.mpr ⟨b, ?_⟩⟩
  have kept : ¬ (g = f ∧ Slot.primary ∈ which.slots) := fun ⟨same, primary⟩ =>
    cleared ⟨same, secondary_mem_slots primary⟩
  rw [clear_port?, if_neg kept, first]

private theorem paired_congr (same : ∀ k, t.port? k = s.port? k) (paired : s.Paired) : t.Paired := by
  intro f a held
  obtain ⟨allows, assigned⟩ := paired f a (same _ ▸ held)
  exact ⟨allows, isAssigned_iff.mpr (same _ ▸ isAssigned_iff.mp assigned)⟩

/-- No change strands a secondary port. -/
theorem stable_paired (c : Catalog) : Stable c Paired := by
  intro s t paired change
  cases change with
  | wired fits => exact wire_paired paired fits
  | cleared f which => exact clear_paired f which paired
  | placed _ => exact paired_congr (fun _ => rfl) paired
  | optioned done => exact paired_congr done.port? paired
  | settled _ => exact paired_congr (fun _ => rfl) paired

theorem Fresh.port? {d : Document} (fresh : s.Fresh c d) (k : SlotKey) : s.port? k = none := by
  simp [Session.port?, fresh.unwired k]

theorem Fresh.paired {d : Document} (fresh : s.Fresh c d) : s.Paired := by
  intro f a held
  simp [fresh.port?] at held

/-- Restoring strands no secondary port. -/
theorem restore_paired (c : Catalog) (d : Document) : (restore c d).1.Paired :=
  (stable_paired c).grown (Restoration.optioned_fresh c d).paired (Restoration.placed_grows c d)

/-! ## What a swapped board strands -/

private theorem isAssigned_swapBoard {role : Role} {id : Option String} {f : PrinterFunction} :
    (s.swapBoard role id).isAssigned f = true ↔ ∃ a, s.port? ⟨f, .primary⟩ = some a ∧ a.role ≠ role := by
  simp [isAssigned_iff, Option.filter_eq_some_iff]

/-- Swapping a board strands the secondary ports on the other one whose primary port it takes away. -/
theorem swapBoard_paired_iff {role : Role} {id : Option String} (paired : s.Paired) :
    (s.swapBoard role id).Paired ↔
      ¬ ∃ f a b, s.port? ⟨f, .primary⟩ = some a ∧ a.role = role ∧ s.port? ⟨f, .secondary⟩ = some b ∧ b.role ≠ role := by
  constructor
  · rintro kept ⟨f, a, b, first, lost, second, stays⟩
    have held : (s.swapBoard role id).port? ⟨f, .secondary⟩ = some b := by simp [second, stays]
    obtain ⟨a', first', elsewhere⟩ := isAssigned_swapBoard.mp (kept f b held).2
    rw [first] at first'
    cases first'
    exact elsewhere lost
  · intro unstranded f b held
    obtain ⟨second, stays⟩ : s.port? ⟨f, .secondary⟩ = some b ∧ b.role ≠ role := by
      simpa [Option.filter_eq_some_iff] using held
    obtain ⟨allows, assigned⟩ := paired f b second
    obtain ⟨a, first⟩ := isAssigned_iff.mp assigned
    exact ⟨allows, isAssigned_swapBoard.mpr ⟨a, first, fun lost => unstranded ⟨f, a, b, first, lost, second, stays⟩⟩⟩

private theorem after_swaps {role : Role} {id : Option String} (known : Known c id) (other : s.board? role ≠ id) :
    s.after c (.edit (.selectBoard role id)) = s.swapBoard role id := by
  obtain ⟨n, done⟩ := selectBoard_ok_iff.mpr ⟨known, (if_neg other : _ = s.swapBoard role id).symm⟩
  simp only [after, perform, done, Except.map]

/-- From a paired session, the operations that strand a secondary port lead to one that is not paired, and no
others do. -/
theorem after_paired_iff (paired : s.Paired) (op : Operation) : (s.after c op).Paired ↔ ¬ op.Strands c s := by
  constructor
  · rintro kept ⟨role, id, f, a, b, rfl, known, other, first, lost, second, stays⟩
    rw [after_swaps known other] at kept
    exact (swapBoard_paired_iff paired).mp kept ⟨f, a, b, first, lost, second, stays⟩
  · intro unstranded
    rcases after_ways c s op with ⟨d, u, fresh, grown⟩ | grown | ⟨role, id, rfl, known, other, same⟩
    · exact (stable_paired c).grown fresh.paired grown
    · exact (stable_paired c).grown paired grown
    · rw [same, swapBoard_paired_iff paired]
      rintro ⟨f, a, b, first, lost, second, stays⟩
      exact unstranded ⟨role, id, f, a, b, rfl, known, other, first, lost, second, stays⟩

/-! ## Histories -/

private theorem invariant_allowed (c : Catalog) : Invariant c Allowed where
  fresh fresh f a held := by simp [fresh.port?] at held
  stable s t allowed change f a held := by
    cases change with
    | wired fits =>
      rw [wire_port?] at held
      split_ifs at held with here
      · subst here
        exact (fits.allowed rfl).1
      · exact allowed f a held
    | cleared f' which =>
      rw [clear_port?] at held
      split_ifs at held
      exact allowed f a held
    | placed _ => exact allowed f a held
    | optioned done => exact allowed f a (done.port? _ ▸ held)
    | settled _ => exact allowed f a held
  swap allowed known f a held := by
    rw [swapBoard_port?, Option.filter_eq_some_iff] at held
    exact allowed f a held.1

/-- As long as no swap strands a secondary port, none is without its primary one. -/
theorem paired_along_of_unstranded (ops : List Operation)
    (unstranded : ∀ before op, before ++ [op] <+: ops → ¬ op.Strands c (reached c before)) : (reached c ops).Paired := by
  induction ops using List.reverseRecOn with
  | nil => exact (empty_fresh c).paired
  | append_singleton before op ih =>
    have paired := ih fun earlier op' inside => unstranded earlier op' (inside.trans (List.prefix_append _ _))
    rw [reached_concat]
    exact (after_paired_iff paired op).mpr (unstranded before op List.prefix_rfl)

/-- Only functions that allow it ever have a secondary port. A history goes through paired sessions exactly as long
as none of its operations strands a secondary port. -/
theorem paired_along_iff (c : Catalog) (ops : List Operation) :
    (∀ f a, (reached c ops).port? ⟨f, .secondary⟩ = some a → f.allowsSecondary = true) ∧
      ((∀ before, before <+: ops → (reached c before).Paired) ↔
        ∀ before op, before ++ [op] <+: ops → ¬ op.Strands c (reached c before)) := by
  refine ⟨(invariant_allowed c).reached ops, ?_, ?_⟩
  · intro paired before op inside
    have kept := paired _ inside
    rw [reached_concat] at kept
    exact (after_paired_iff (paired before ((List.prefix_append _ _).trans inside)) op).mp kept
  · intro unstranded before inside
    exact paired_along_of_unstranded before fun earlier op within => unstranded earlier op (within.trans inside)

/-- A hotend fan with its primary port on the toolboard and its secondary port on the mainboard; then the toolboard
is taken away. -/
def strandedFan : List Operation :=
  [.edit (.selectBoard .mainboard (some "btt-octopus-v1.1")), .edit (.selectBoard .toolboard (some "btt-ebb36-v1.2")),
   .edit (.assign (.fan .hotend) .toolboard "FAN1" .primary), .edit (.assign (.fan .hotend) .mainboard "FAN2" .secondary),
   .edit (.selectBoard .toolboard none)]

/-- A fan with a port on each board, and then the board of its primary port goes. -/
theorem strandedFan_not_paired : ¬ (reached Catalog.builtin strandedFan).Paired := by
  intro paired
  have stranded : (reached Catalog.builtin strandedFan).port? ⟨.fan .hotend, .secondary⟩ = some ⟨.mainboard, "FAN2"⟩ ∧
      (reached Catalog.builtin strandedFan).isAssigned (.fan .hotend) = false := by
    decide +kernel
  exact Bool.false_ne_true (stranded.2.symm.trans (paired _ _ stranded.1).2)

end Session

end PrinterWiring
