import PrinterWiring.Proofs.Session.Replay

/-!
# Where functions are placed

Three operations record where a function is placed, and the others leave that alone. Still, in every reachable session a
function with a primary port is placed on the board of that port, so that `relocate`, which looks at both, does nothing
exactly if the function is placed there already (`reachedOver_located`).
-/

namespace PrinterWiring.Session

variable {s : Session} {f : PrinterFunction} {role : Role}

/-- `t` is `s` after a function has gone to another board: its slots have lost their ports and pins, of which there were
`count`, and nothing else has changed. -/
structure Moved (s : Session) (f : PrinterFunction) (role : Role) (t : Session) (count : Nat) : Prop where
  cleared : ∀ slot, t.port? ⟨f, slot⟩ = none ∧ t.pins? ⟨f, slot⟩ = none
  counted : count = ((Enumerated.all : List Slot).filter fun slot => (s.port? ⟨f, slot⟩).isSome).length
  placed : t.locations.get? f = some role
  others : ∀ k : SlotKey, k.function ≠ f → t.wiring.get? k = s.wiring.get? k
  elsewhere : ∀ g, g ≠ f → t.locations.get? g = s.locations.get? g
  boards : t.boards = s.boards
  options : t.options = s.options
  settings : t.settings = s.settings

/-- Where a function is placed already, it is left as it is. -/
theorem relocate_of_placed (located : s.Located) (placed : s.locations.get? f = some role) :
    s.relocate f role = (s, 0) := by
  have agrees : (s.port? ⟨f, .primary⟩).all (·.role = role) = true := by
    cases held : s.port? ⟨f, .primary⟩ with
    | none => rfl
    | some a =>
      have here := located f a held
      rw [placed] at here
      simp [Option.some.inj here]
  rw [relocate, if_pos ⟨placed, agrees⟩]

/-- A function that was placed elsewhere is moved, and loses its ports. -/
theorem relocate_moved (elsewhere : s.locations.get? f ≠ some role) :
    s.Moved f role (s.relocate f role).1 (s.relocate f role).2 := by
  have moves : s.relocate f role = ((s.clear f .both).1.putLocation f role, (s.clear f .both).2) := by
    rw [relocate, if_neg fun both => elsewhere both.1]
  have wiring (k : SlotKey) :
      ((s.clear f .both).1.putLocation f role).wiring.get? k = if k.function = f then none else s.wiring.get? k := by
    have every : k.slot ∈ SlotChoice.both.slots := by cases k.slot <;> decide
    rw [putLocation, clear_get?]
    simp only [every, and_true]
  have locations (g : PrinterFunction) :
      ((s.clear f .both).1.putLocation f role).locations.get? g = if g = f then some role else s.locations.get? g :=
    Table.get?_insert ..
  rw [moves]
  refine ⟨fun slot => ?_, ?_, ?_, fun k other => ?_, fun g other => ?_, rfl, rfl, rfl⟩
  · simp [port?, pins?, wiring]
  · simp [clear, SlotChoice.slots, Enumerated.all, Table.contains, port?]
  · rw [locations, if_pos rfl]
  · rw [wiring, if_neg other]
  · rw [locations, if_neg other]

/-- Whatever operations are done, over whatever catalogs, a function with a primary port is placed on the board of that
port. Moving a function does nothing exactly if it is placed there already; else it loses all its ports and is placed
there, and nothing else changes. -/
theorem reachedOver_located (steps : List (Catalog × Operation)) :
    (reachedOver steps).Located ∧ ∀ f role,
      ((reachedOver steps).relocate f role = (reachedOver steps, 0) ↔ (reachedOver steps).locations.get? f = some role) ∧
        ((reachedOver steps).locations.get? f ≠ some role →
          (reachedOver steps).Moved f role ((reachedOver steps).relocate f role).1
            ((reachedOver steps).relocate f role).2) := by
  have located : (reachedOver steps).Located := Invariant.reachedOver invariant_located steps
  refine ⟨located, fun f role => ⟨⟨fun still => ?_, relocate_of_placed located⟩, relocate_moved⟩⟩
  by_contra elsewhere
  have placed := (relocate_moved elsewhere).placed
  rw [still] at placed
  exact elsewhere placed

end PrinterWiring.Session
