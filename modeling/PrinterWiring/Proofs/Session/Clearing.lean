import PrinterWiring.Proofs.Session.Assigning

/-!
# Clearing slots

Clearing takes ports and pins away from the slots of one function and touches nothing else (`Cleared`), so that it does
not matter how often it is done, or in which order for two functions. A port is freed by clearing the slot that owns it;
since no two slots share a port in a reachable session, nothing uses it afterwards (`reachedOver_clear`).
-/

namespace PrinterWiring

/-- The choice that clears a slot. With a primary slot goes the secondary one. -/
def Slot.choice : Slot → SlotChoice
  | .primary => .primary
  | .secondary => .secondary

namespace Session

/-- `t` is `s` after slots of a function have lost their ports and pins, of which there were `count`: the secondary slot,
and unless that alone was chosen the primary slot as well. Nothing else has changed. -/
structure Cleared (s : Session) (f : PrinterFunction) (which : SlotChoice) (t : Session) (count : Nat) : Prop where
  secondary : t.wiring.get? ⟨f, .secondary⟩ = none
  primary : t.wiring.get? ⟨f, .primary⟩ = if which = .secondary then s.wiring.get? ⟨f, .primary⟩ else none
  others : ∀ k : SlotKey, k.function ≠ f → t.wiring.get? k = s.wiring.get? k
  counted : s.assignments.length = t.assignments.length + count
  boards : t.boards = s.boards
  options : t.options = s.options
  locations : t.locations = s.locations
  settings : t.settings = s.settings

/-- `t` is `s` after a port was freed: if no slot used it, nothing has changed, and if one did, it is the only one, and
its function is cleared as far as it goes along with that slot. -/
inductive Freed (s : Session) (role : Role) (port : String) : Session → Option SlotKey → Prop where
  | unused (free : ∀ k, ¬ s.Uses role port k) : Freed s role port s none
  | cleared {k : SlotKey} {t : Session} {count : Nat} (uses : s.Uses role port k)
      (only : ∀ j, s.Uses role port j → j = k) (cleared : s.Cleared k.function k.slot.choice t count) :
      Freed s role port t (some k)

variable {s t : Session} {f g : PrinterFunction} {which other : SlotChoice} {role : Role} {port : String} {k : SlotKey}
  {w : Wiring} {count : Nat} {owner : Option SlotKey}

/-! ## Counting -/

/-- The assignments that clearing takes away. -/
def lost (s : Session) (f : PrinterFunction) (which : SlotChoice) : List Assignment :=
  s.assignments.filter fun a => a.function = f ∧ a.slot ∈ which.slots

/-- What is cleared is no longer assigned, and all else is. -/
theorem clear_assignments (s : Session) (f : PrinterFunction) (which : SlotChoice) :
    (s.clear f which).1.assignments = s.assignments.filter fun a => ¬ (a.function = f ∧ a.slot ∈ which.slots) := by
  rw [assignments, assignments, List.filter_filterMap]
  refine List.filterMap_congr fun k _ => ?_
  rw [assignment?, clear_get?, assignment?]
  cases s.wiring.get? k with
  | none => simp
  | some w => by_cases gone : k.function = f ∧ k.slot ∈ which.slots <;> simp [gone, Option.filter]

private theorem lost_length (s : Session) (f : PrinterFunction) (which : SlotChoice) :
    (s.lost f which).length = (s.clear f which).2 := by
  -- Both sides count the chosen slots that have a port: the lists of their keys have the same members, each once.
  have distinct : ((s.lost f which).map Assignment.key).Nodup := List.pairwise_map.mpr ((assignments_distinct s).filter _)
  have slots : ((which.slots.filter fun slot => s.wiring.contains ⟨f, slot⟩).map (SlotKey.mk f)).Nodup := by
    refine List.Nodup.map (fun _ _ same => (SlotKey.mk.inj same).2) (List.Nodup.filter _ ?_)
    cases which <;> decide
  have members (k : SlotKey) : k ∈ (s.lost f which).map Assignment.key ↔
      k ∈ (which.slots.filter fun slot => s.wiring.contains ⟨f, slot⟩).map (SlotKey.mk f) := by
    simp only [lost, List.mem_map, List.mem_filter, decide_eq_true_eq, Table.contains_iff]
    constructor
    · rintro ⟨a, ⟨listed, rfl, chosen⟩, rfl⟩
      obtain ⟨w, held, _⟩ := Option.map_eq_some_iff.mp (mem_assignments.mp listed)
      exact ⟨a.slot, ⟨chosen, w, held⟩, rfl⟩
    · rintro ⟨slot, ⟨chosen, w, held⟩, rfl⟩
      have listed : (⟨f, slot, w.port, w.category⟩ : Assignment) ∈ s.assignments :=
        mem_assignments.mpr (Option.map_eq_some_iff.mpr ⟨w, held, rfl⟩)
      exact ⟨_, ⟨listed, rfl, chosen⟩, rfl⟩
  simpa [clear] using ((List.perm_ext_iff_of_nodup distinct slots).mpr members).length_eq

/-! ## Clearing -/

section
variable (s : Session) (f : PrinterFunction) (which : SlotChoice)

@[simp] theorem clear_boards : (s.clear f which).1.boards = s.boards := rfl

@[simp] theorem clear_options : (s.clear f which).1.options = s.options := rfl

@[simp] theorem clear_locations : (s.clear f which).1.locations = s.locations := rfl

@[simp] theorem clear_settings : (s.clear f which).1.settings = s.settings := rfl

end

/-- To clear slots is to take away their ports and nothing else. -/
theorem clear_cleared (s : Session) (f : PrinterFunction) (which : SlotChoice) :
    s.Cleared f which (s.clear f which).1 (s.clear f which).2 where
  secondary := by
    rw [clear_get?, if_pos]
    cases which <;> simp [SlotChoice.slots]
  primary := by
    rw [clear_get?]
    cases which <;> simp [SlotChoice.slots]
  others k other := by rw [clear_get?, if_neg fun both => other both.1]
  counted := by
    have split := List.length_eq_length_filter_add (l := s.assignments) fun a => a.function = f ∧ a.slot ∈ which.slots
    rw [clear_assignments, ← lost_length, lost, split, Nat.add_comm]
    simp only [decide_not]
  boards := clear_boards ..
  options := clear_options ..
  locations := clear_locations ..
  settings := clear_settings ..

/-- Clearing again finds nothing. -/
theorem clear_twice (s : Session) (f : PrinterFunction) (which : SlotChoice) :
    (s.clear f which).1.clear f which = ((s.clear f which).1, 0) := by
  have same : ((s.clear f which).1.clear f which).1 = (s.clear f which).1 := by
    refine ext_of_parts (by simp) (Table.ext fun k => ?_) (by simp) (by simp) (by simp)
    rw [clear_get?]
    split_ifs with gone
    · rw [clear_get?, if_pos gone]
    · rfl
  have none : ((s.clear f which).1.clear f which).2 = 0 := by
    have counted := (clear_cleared (s.clear f which).1 f which).counted
    rw [same] at counted
    omega
  exact Prod.ext same none

/-- The order in which slots are cleared does not matter. -/
theorem clear_comm (s : Session) (f g : PrinterFunction) (which other : SlotChoice) :
    ((s.clear f which).1.clear g other).1 = ((s.clear g other).1.clear f which).1 := by
  refine ext_of_parts (by simp) (Table.ext fun k => ?_) (by simp) (by simp) (by simp)
  simp only [clear_get?]
  split_ifs <;> rfl

/-- Clearing a function takes nothing from another, of which as much is cleared later. -/
theorem clear_count (apart : g ≠ f) : ((s.clear f which).1.clear g other).2 = (s.clear g other).2 := by
  have kept (slot : Slot) : (s.clear f which).1.wiring.contains ⟨g, slot⟩ = s.wiring.contains ⟨g, slot⟩ := by
    rw [Table.contains, Table.contains, clear_get?, if_neg fun both => apart both.1]
  simp only [clear] at kept ⊢
  simp only [kept]

/-! ## Freeing a port -/

private theorem Cleared.get?_of_some (cleared : s.Cleared f which t count) (held : t.wiring.get? k = some w) :
    s.wiring.get? k = some w := by
  by_cases own : k.function = f
  · obtain ⟨_, slot⟩ := k
    subst own
    cases slot with
    | primary =>
      rw [cleared.primary] at held
      split_ifs at held
      exact held
    | secondary =>
      rw [cleared.secondary] at held
      cases held
  · rw [← cleared.others k own, held]

theorem Cleared.uses (cleared : s.Cleared f which t count) (uses : t.Uses role port k) : s.Uses role port k := by
  obtain ⟨a, held, same⟩ := uses
  obtain ⟨w, wired, rfl⟩ := Option.map_eq_some_iff.mp held
  exact ⟨w.port, by rw [port?, cleared.get?_of_some wired]; rfl, same⟩

/-- A slot that is cleared by its own choice has no port. -/
theorem Cleared.not_uses (cleared : s.Cleared k.function k.slot.choice t count) : ¬ t.Uses role port k := by
  have gone : t.wiring.get? k = none := by
    obtain ⟨f, slot⟩ := k
    cases slot with
    | primary => simpa [Slot.choice] using cleared.primary
    | secondary => exact cleared.secondary
  rintro ⟨a, held, _⟩
  rw [port?, gone] at held
  cases held

/-- A port is freed of the slot that owns it. -/
theorem freePort_freed (exclusive : s.Exclusive) (role : Role) (port : String) :
    s.Freed role port (s.freePort role port).1 (s.freePort role port).2 := by
  unfold freePort
  cases owned : s.registry.owner? role port with
  | none => exact .unused (owner?_eq_none.mp owned)
  | some k =>
    obtain ⟨a, held, here, letters⟩ := port?_of_owner? owned
    -- The owner is the first slot that is found; that there is no other needs the session to be exclusive.
    have only (j : SlotKey) (uses : s.Uses role port j) : j = k := by
      obtain ⟨b, held', here', letters'⟩ := uses
      exact exclusive j k b a held' held (here'.trans here.symm) (letters'.trans letters.symm)
    have cleared := clear_cleared s k.function k.slot.choice
    obtain ⟨f, slot⟩ := k
    cases slot <;> exact .cleared ⟨a, held, here, letters⟩ only cleared

/-- A port that is freed is used by no slot. -/
theorem Freed.not_used (freed : s.Freed role port t owner) : t.registry.isUsed role port = false := by
  rw [Bool.eq_false_iff, Ne, isUsed_iff]
  rintro ⟨j, used⟩
  cases freed with
  | unused free => exact free j used
  | cleared uses only cleared =>
    have own := only j (cleared.uses used)
    subst own
    exact cleared.not_uses used

/-- Clearing takes away what the choice says, answers how many assignments have disappeared, finds nothing the second
time and goes in any order for two functions. Whatever operations have been done, over whatever catalogs, freeing a port
answers the only slot that uses it and clears that, or does nothing if there is none; nothing uses the port then. -/
theorem reachedOver_clear (steps : List (Catalog × Operation)) :
    (∀ f which,
      (reachedOver steps).Cleared f which ((reachedOver steps).clear f which).1 ((reachedOver steps).clear f which).2 ∧
        ((reachedOver steps).clear f which).1.clear f which = (((reachedOver steps).clear f which).1, 0) ∧
        ∀ g other, g ≠ f →
          (((reachedOver steps).clear f which).1.clear g other).1 =
              (((reachedOver steps).clear g other).1.clear f which).1 ∧
            (((reachedOver steps).clear f which).1.clear g other).2 = ((reachedOver steps).clear g other).2) ∧
      ∀ role port,
        (reachedOver steps).Freed role port ((reachedOver steps).freePort role port).1
            ((reachedOver steps).freePort role port).2 ∧
          ((reachedOver steps).freePort role port).1.registry.isUsed role port = false := by
  have exclusive : (reachedOver steps).Exclusive := Invariant.reachedOver invariant_exclusive steps
  refine ⟨fun f which => ⟨clear_cleared .., clear_twice .., fun g other apart => ⟨clear_comm .., clear_count apart⟩⟩,
    fun role port => ?_⟩
  have freed := freePort_freed exclusive role port
  exact ⟨freed, freed.not_used⟩

end Session

end PrinterWiring
