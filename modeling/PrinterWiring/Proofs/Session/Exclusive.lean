import PrinterWiring.Proofs.Session.History

/-!
# Ports that no two slots share

A port is wired only while the registry has no owner for it, and the registry is read off what is wired. So no two
slots ever have one port (`Exclusive`), whichever catalogs the operations use, and the registry is the inverse of the
assignments (`reachedOver_consistent`).
-/

namespace PrinterWiring

namespace Session

/-- Two slots with one port, up to the letter case of its id, are the same slot. -/
def Exclusive (s : Session) : Prop :=
  ∀ k j a b, s.port? k = some a → s.port? j = some b → a.role = b.role → Text.SameLetters a.port b.port → k = j

/-- What is wired to a slot has the category of its function. -/
def WellSorted (s : Session) : Prop := ∀ k w, s.wiring.get? k = some w → w.category = k.function.category

/-- No two slots share a port, every assignment is its own slot's, and the registry is the inverse of the
assignments. -/
structure Consistent (s : Session) : Prop where
  exclusive : ∀ k j a b, k ≠ j → s.port? k = some a → s.port? j = some b →
    ¬ (a.role = b.role ∧ Text.SameLetters a.port b.port)
  own : ∀ k a, s.assignment? k = some a → a.key = k ∧ a.category = k.function.category
  unclaimed : s.registry.conflicts = []
  owner : ∀ role port k, s.registry.owner? role port = some k ↔
    ∃ a, s.port? k = some a ∧ a.role = role ∧ Text.SameLetters a.port port
  used : ∀ role port, s.registry.isUsed role port = true ↔
    ∃ k a, s.port? k = some a ∧ a.role = role ∧ Text.SameLetters a.port port

variable {s t : Session}

/-! ## Reading the registry -/

/-- The assignments are those of the slots. -/
theorem mem_assignments {a : Assignment} : a ∈ s.assignments ↔ s.assignment? a.key = some a := by
  simp only [assignments, List.mem_filterMap, Enumerated.mem_all, true_and]
  constructor
  · rintro ⟨k, held⟩
    obtain ⟨w, _, rfl⟩ := Option.map_eq_some_iff.mp held
    exact held
  · exact fun held => ⟨a.key, held⟩

theorem port?_of_mem_assignments {a : Assignment} (listed : a ∈ s.assignments) : s.port? a.key = some a.port := by
  obtain ⟨w, held, same⟩ := Option.map_eq_some_iff.mp (mem_assignments.mp listed)
  rw [port?, held, ← same]
  rfl

theorem exists_mem_assignments {k : SlotKey} {p : Address} (held : s.port? k = some p) :
    ∃ a ∈ s.assignments, a.key = k ∧ a.port = p := by
  obtain ⟨w, wired, rfl⟩ := Option.map_eq_some_iff.mp held
  refine ⟨⟨k.function, k.slot, w.port, w.category⟩, mem_assignments.mpr ?_, rfl, rfl⟩
  rw [assignment?, Assignment.key, wired]
  rfl

theorem uses_iff {role : Role} {port : String} {a : Assignment} :
    Registry.uses role port a = true ↔ a.port.role = role ∧ Text.SameLetters a.port.port port := by
  rw [Registry.uses, Bool.and_eq_true, beq_iff_eq, Text.sameFolded_iff]

theorem isUsed_iff {role : Role} {port : String} :
    s.registry.isUsed role port = true ↔ ∃ k a, s.port? k = some a ∧ a.role = role ∧ Text.SameLetters a.port port := by
  simp only [Registry.isUsed, registry, List.any_eq_true, uses_iff]
  constructor
  · rintro ⟨a, listed, same⟩
    exact ⟨a.key, a.port, port?_of_mem_assignments listed, same⟩
  · rintro ⟨k, p, held, same⟩
    obtain ⟨a, listed, -, rfl⟩ := exists_mem_assignments held
    exact ⟨a, listed, same⟩

/-- The owner of a port has it. -/
theorem port?_of_owner? {role : Role} {port : String} {k : SlotKey} (owned : s.registry.owner? role port = some k) :
    ∃ a, s.port? k = some a ∧ a.role = role ∧ Text.SameLetters a.port port := by
  obtain ⟨a, found, rfl⟩ := Option.map_eq_some_iff.mp owned
  have listed : a ∈ s.assignments := List.mem_reverse.mp (List.mem_of_find?_eq_some found)
  exact ⟨a.port, port?_of_mem_assignments listed, uses_iff.mp (List.find?_some found)⟩

private theorem not_same_of_owner?_none {role : Role} {port : String} (free : s.registry.owner? role port = none)
    {k : SlotKey} {a : Address} (held : s.port? k = some a) :
    ¬ (a.role = role ∧ Text.SameLetters a.port port) := by
  obtain ⟨x, listed, -, rfl⟩ := exists_mem_assignments held
  have unused := List.find?_eq_none.mp (Option.map_eq_none_iff.mp free) x (List.mem_reverse.mpr listed)
  exact fun same => unused (uses_iff.mpr same)

/-- Where no two slots share a port, a slot owns the port that it has. -/
theorem owner?_of_port? (exclusive : s.Exclusive) {role : Role} {port : String} {k : SlotKey} {a : Address}
    (held : s.port? k = some a) (here : a.role = role) (letters : Text.SameLetters a.port port) :
    s.registry.owner? role port = some k := by
  cases owned : s.registry.owner? role port with
  | none => exact absurd ⟨here, letters⟩ (not_same_of_owner?_none owned held)
  | some j =>
    obtain ⟨b, held', here', letters'⟩ := port?_of_owner? owned
    exact congrArg some (exclusive j k b a held' held (here'.trans here.symm) (letters'.trans letters.symm))

private theorem laterClaims_eq_nil {before as : List Assignment}
    (fresh : ∀ a ∈ as, ∀ b ∈ before, Registry.uses a.port.role a.port.port b = false)
    (apart : as.Pairwise fun a b => Registry.uses b.port.role b.port.port a = false) :
    Registry.laterClaims before as = [] := by
  induction as generalizing before with
  | nil => rfl
  | cons a as ih =>
    obtain ⟨first, rest⟩ := List.pairwise_cons.mp apart
    have unused : before.any (Registry.uses a.port.role a.port.port) = false :=
      List.any_eq_false.mpr fun b inside => by simp [fresh a (List.mem_cons_self ..) b inside]
    rw [Registry.laterClaims, unused]
    refine ih (fun a' inside b earlier => ?_) rest
    rcases List.mem_cons.mp earlier with rfl | earlier
    · exact first a' inside
    · exact fresh a' (List.mem_cons_of_mem _ inside) b earlier

theorem assignments_distinct (s : Session) : s.assignments.Pairwise fun a b => a.key ≠ b.key := by
  refine List.Pairwise.filterMap s.assignment? (fun k j other a first b second => ?_) Enumerated.nodup
  obtain ⟨_, _, rfl⟩ := Option.map_eq_some_iff.mp first
  obtain ⟨_, _, rfl⟩ := Option.map_eq_some_iff.mp second
  exact other

/-- Where no two slots share a port, none is contested. -/
theorem conflicts_eq_nil (exclusive : s.Exclusive) : s.registry.conflicts = [] := by
  have apart : s.assignments.Pairwise fun a b => Registry.uses b.port.role b.port.port a = false := by
    refine (List.Pairwise.and_mem.mp (assignments_distinct s)).imp ?_
    rintro a b ⟨first, second, other⟩
    refine Bool.eq_false_iff.mpr fun used => other ?_
    obtain ⟨role, letters⟩ := uses_iff.mp used
    exact exclusive _ _ _ _ (port?_of_mem_assignments first) (port?_of_mem_assignments second) role letters
  rw [Registry.conflicts, registry, laterClaims_eq_nil (by simp) apart]
  rfl

/-! ## What changes keep -/

private theorem exclusive_of_le (kept : ∀ k a, t.port? k = some a → s.port? k = some a) (exclusive : s.Exclusive) :
    t.Exclusive :=
  fun k j a b first second => exclusive k j a b (kept k a first) (kept j b second)

private theorem wire_exclusive {c : Catalog} {k : SlotKey} {w : Wiring} (fits : s.Fits c k w)
    (exclusive : s.Exclusive) : (s.wire k w).Exclusive := by
  intro i j a b first second role letters
  rw [wire_port?] at first second
  split_ifs at first second with here there there
  · exact here.trans there.symm
  · cases first
    exact absurd ⟨role.symm, letters.symm⟩ (not_same_of_owner?_none fits.free second)
  · cases second
    exact absurd ⟨role, letters⟩ (not_same_of_owner?_none fits.free first)
  · exact exclusive i j a b first second role letters

/-- Changes and swaps of boards leave each port to one slot. -/
theorem invariant_exclusive (c : Catalog) : Invariant c Exclusive where
  fresh fresh k j a b held := by simp [port?, fresh.unwired] at held
  stable s t exclusive change := by
    cases change with
    | wired fits => exact wire_exclusive fits exclusive
    | cleared f which =>
      refine exclusive_of_le (fun k a held => ?_) exclusive
      rw [clear_port?] at held
      split_ifs at held
      exact held
    | placed _ => exact exclusive
    | optioned done => exact exclusive_of_le (fun k a held => done.port? k ▸ held) exclusive
    | settled _ => exact exclusive
  swap exclusive _ := by
    refine exclusive_of_le (fun k a held => ?_) exclusive
    rw [swapBoard_port?, Option.filter_eq_some_iff] at held
    exact held.1

/-- Changes and swaps of boards leave to each function ports of its category only. -/
theorem invariant_wellSorted (c : Catalog) : Invariant c WellSorted where
  fresh fresh k w held := by simp [fresh.unwired] at held
  stable s t sorted change k w held := by
    cases change with
    | wired fits =>
      rw [wire_wiring, Table.get?_insert] at held
      split_ifs at held with here
      · cases held
        exact here ▸ fits.category
      · exact sorted k w held
    | cleared f which =>
      rw [clear_get?] at held
      split_ifs at held
      exact sorted k w held
    | placed _ => exact sorted k w held
    | optioned done =>
      rcases done.get? k with ⟨_, after⟩ | ⟨w', pins, before, after⟩
      · cases after.symm.trans held
      · cases after.symm.trans held
        exact sorted k w' before
    | settled _ => exact sorted k w held
  swap sorted _ k w held := by
    simp only [swapBoard, Table.get?_filter, Option.filter_eq_some_iff] at held
    exact sorted k w held.1

private theorem Exclusive.consistent (exclusive : s.Exclusive) (sorted : s.WellSorted) : s.Consistent where
  exclusive k j a b other first second same := other (exclusive k j a b first second same.1 same.2)
  own k a held := by
    obtain ⟨w, wired, rfl⟩ := Option.map_eq_some_iff.mp held
    exact ⟨rfl, sorted k w wired⟩
  unclaimed := conflicts_eq_nil exclusive
  owner role port k :=
    ⟨port?_of_owner?, fun ⟨_, held, here, letters⟩ => owner?_of_port? exclusive held here letters⟩
  used role port := isUsed_iff

/-- Whatever operations are done, over whatever catalogs, the registry stays the inverse of the assignments. -/
theorem reachedOver_consistent (steps : List (Catalog × Operation)) : (reachedOver steps).Consistent :=
  Exclusive.consistent (Invariant.reachedOver invariant_exclusive steps)
    (Invariant.reachedOver invariant_wellSorted steps)

end Session

end PrinterWiring
