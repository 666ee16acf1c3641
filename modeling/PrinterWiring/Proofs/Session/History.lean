import PrinterWiring.Proofs.Session.Growth

/-!
# Histories of a session

An operation is anything that is done to a session: an edit, the restoration of a document in its place, or a
change of its settings. One that is refused leaves the session as it was. A property that fresh sessions have
and that changes and swaps keep holds throughout every history, also if each operation uses a catalog of its own
(`Invariant.reachedOver`).
-/

namespace PrinterWiring

/-- Something that is done to a session. -/
inductive Operation where
  | edit (e : Edit)
  /-- Puts the session of a document in the place of the session. -/
  | restore (d : Document)
  | set (key value : String)
  | unset (key : String)
  /-- Settings are open to any change. -/
  | settle (settings : Settings)

namespace Session

/-- The session after an operation. -/
def after (c : Catalog) (s : Session) : Operation → Session
  | .edit e =>
    match s.perform c e with
    | .ok (t, _) => t
    | .error _ => s
  | .restore d => (restore c d).1
  | .set key value =>
    match s.settings.setNamed key value with
    | .ok (some settings) => { s with settings := settings }
    | _ => s
  | .unset key =>
    match s.settings.unsetNamed key with
    | some settings => { s with settings := settings }
    | none => s
  | .settle settings => { s with settings := settings }

/-- What operations make of the empty session, each of them over a catalog of its own. -/
def reachedOver (steps : List (Catalog × Operation)) : Session :=
  steps.foldl (fun s step => s.after step.1 step.2) empty

/-- What operations over one catalog make of the empty session. -/
def reached (c : Catalog) (ops : List Operation) : Session := ops.foldl (after c) empty

@[simp] theorem reached_concat (c : Catalog) (ops : List Operation) (op : Operation) :
    reached c (ops ++ [op]) = (reached c ops).after c op := by
  simp [reached]

theorem reached_restore (c : Catalog) (d : Document) : reached c [.restore d] = (restore c d).1 := rfl

theorem empty_fresh (c : Catalog) : empty.Fresh c .empty where
  unwired k := Table.get?_empty k
  unplaced f := Table.get?_empty f
  drawn role id held := by simp [board?, empty] at held
  known role id held := by simp [board?, empty] at held
  marked f o held := by simp [empty] at held
  settled := rfl

/-- What an operation does: it starts over from a fresh session, makes changes, or swaps a board. -/
theorem after_ways (c : Catalog) (s : Session) (op : Operation) :
    (∃ d u, Fresh c d u ∧ Relation.ReflTransGen (Change c) u (s.after c op)) ∨
      Relation.ReflTransGen (Change c) s (s.after c op) ∨
      ∃ role id, op = .edit (.selectBoard role id) ∧ Known c id ∧ s.board? role ≠ id ∧
        s.after c op = s.swapBoard role id := by
  cases op with
  | edit e =>
    simp only [after]
    cases done : s.perform c e with
    | error refusal => exact .inr (.inl .refl)
    | ok x =>
      rcases perform_ok done with changes | ⟨role, id, rfl, known, other, same⟩
      · exact .inr (.inl changes)
      · exact .inr (.inr ⟨role, id, rfl, known, other, same⟩)
  | restore d => exact .inl ⟨d, _, Restoration.optioned_fresh c d, Restoration.placed_grows c d⟩
  | set key value =>
    simp only [after]
    split
    · exact .inr (.inl (.single (.settled _)))
    · exact .inr (.inl .refl)
  | unset key =>
    simp only [after]
    split
    · exact .inr (.inl (.single (.settled _)))
    · exact .inr (.inl .refl)
  | settle settings => exact .inr (.inl (.single (.settled settings)))

/-! ## Invariants -/

/-- A property that changes over a catalog keep. -/
def Stable (c : Catalog) (P : Session → Prop) : Prop := ∀ s t, P s → Change c s t → P t

/-- What a change keeps, several changes keep. -/
theorem Stable.grown {c : Catalog} {P : Session → Prop} (stable : Stable c P) {s t : Session} (holds : P s)
    (grown : Relation.ReflTransGen (Change c) s t) : P t := by
  induction grown with
  | refl => exact holds
  | tail _ change kept => exact stable _ _ kept change

/-- A property that holds of fresh sessions over a catalog, and that changes and swaps of boards keep. -/
structure Invariant (c : Catalog) (P : Session → Prop) : Prop where
  fresh : ∀ {d u}, Fresh c d u → P u
  stable : Stable c P
  swap : ∀ {s role id}, P s → Known c id → P (s.swapBoard role id)

namespace Invariant

variable {c : Catalog} {P : Session → Prop}

/-- An operation keeps an invariant. -/
theorem after (invariant : Invariant c P) {s : Session} (holds : P s) (op : Operation) : P (s.after c op) := by
  rcases after_ways c s op with ⟨d, u, fresh, grown⟩ | grown | ⟨role, id, _, known, _, same⟩
  · exact invariant.stable.grown (invariant.fresh fresh) grown
  · exact invariant.stable.grown holds grown
  · rw [same]
    exact invariant.swap holds known

/-- An invariant holds after all operations, each over a catalog of its own. -/
theorem reachedOver (invariant : ∀ c, Invariant c P) (steps : List (Catalog × Operation)) :
    P (Session.reachedOver steps) :=
  List.foldlRecOn (motive := P) _ _ ((invariant Catalog.empty).fresh (empty_fresh _))
    fun _ holds step _ => (invariant step.1).after holds step.2

theorem reached (invariant : Invariant c P) (ops : List Operation) : P (Session.reached c ops) :=
  List.foldlRecOn (motive := P) _ _ (invariant.fresh (empty_fresh c)) fun _ holds op _ => invariant.after holds op

end Invariant

end Session

end PrinterWiring
