import PrinterWiring.CommandLine.Action

/-!
# Actions in order

A command leaves the files alone when it fails if everything in it that can fail comes before the first replacement.
So actions are told apart by what they may do: one that looks may fail, but replaces nothing (`Looks`); one that writes
may replace files, but never fails (`Writes`). A chain that looks first and writes then is all or nothing
(`AllOrNothing`), whatever is between the two.
-/

namespace PrinterWiring.CommandLine

/-- Whatever ends a run early, its exit code says so. -/
theorem Ending.code_ne_zero (e : Ending) : e.code ≠ 0 := by
  cases e <;> decide

namespace Action

variable {α β : Type} {h : Host} {x : Action α} {next : α → Action β} {P : Replacement → Prop} {Q : α → Prop}
  {R : β → Prop}

/-! ## Single actions -/

/-- A chain goes on where its first action left things, or ends there if that failed. -/
theorem perform_bind (x : Action α) (next : α → Action β) (h : Host) (c : Course) :
    (x >>= next).perform h c =
      match x.perform h c with
      | (.ok a, d) => (next a).perform h d
      | (.error e, d) => (.error e, d) := by
  show ExceptT.bindCont (fun a => (next a).run h) (x.perform h c).1 (x.perform h c).2 = _
  obtain ⟨_ | a, d⟩ := x.perform h c <;> rfl

theorem perform_bind_eq_ok {b : β} {c e : Course} :
    (x >>= next).perform h c = (.ok b, e) ↔
      ∃ a d, x.perform h c = (.ok a, d) ∧ (next a).perform h d = (.ok b, e) := by
  rw [perform_bind]
  obtain ⟨_ | a, d⟩ := x.perform h c
  · exact iff_of_false nofun nofun
  · constructor
    · exact fun done => ⟨a, d, rfl, done⟩
    · rintro ⟨_, _, ⟨⟩, done⟩
      exact done

@[simp] theorem perform_pure (a : α) (h : Host) (c : Course) : (pure a : Action α).perform h c = (.ok a, c) := rfl

@[simp] theorem perform_throw (e : Failure) (h : Host) (c : Course) :
    (throw e : Action α).perform h c = (.error e, c) := rfl

@[simp] theorem perform_lift (r : Except Failure α) (h : Host) (c : Course) :
    (liftM r : Action α).perform h c = (r, c) := rfl

@[simp] theorem perform_here (h : Host) (c : Course) :
    here.perform h c = (.ok { h with files := c.files h.files }, c) := rfl

@[simp] theorem perform_print (text : String) (h : Host) (c : Course) :
    (print text).perform h c = (.ok (), { c with output := c.output ++ text }) := rfl

@[simp] theorem perform_warn (warnings : List String) (h : Host) (c : Course) :
    (warn warnings).perform h c =
      (.ok (), { c with warnings := c.warnings ++ Text.unlines (warnings.map ("Warning: " ++ ·)) }) := rfl

@[simp] theorem perform_replace (r : Replacement) (h : Host) (c : Course) :
    (replace r).perform h c = (.ok (), { c with effects := c.effects ++ [r] }) := rfl

/-! ## Looking -/

/-- As long as no file was replaced, the action replaces none, whether it fails or not, and its value is as said. -/
def Looks (h : Host) (Q : α → Prop) (x : Action α) : Prop :=
  ∀ c, c.effects = [] → (x.perform h c).2.effects = [] ∧ ∀ a, (x.perform h c).1 = .ok a → Q a

theorem Looks.imp {R : α → Prop} (looks : Looks h Q x) (weaker : ∀ a, Q a → R a) : Looks h R x :=
  fun c none => (looks c none).imp_right fun said a done => weaker a (said a done)

theorem Looks.pure {a : α} (said : Q a) : Looks h Q (pure a) := by
  rintro c none
  exact ⟨none, fun _ same => Except.ok.inj same ▸ said⟩

theorem Looks.throw {e : Failure} : Looks h Q (throw e) := fun _ none => ⟨none, nofun⟩

theorem Looks.lift {r : Except Failure α} : Looks h (fun a => r = .ok a) (liftM r) := fun _ none => ⟨none, fun _ => id⟩

/-- What is found is what was there when the command began. -/
theorem Looks.here : Looks h (· = h) here := by
  rintro c none
  refine ⟨none, fun _ found => ?_⟩
  rw [← Except.ok.inj found, Course.files, none, List.foldl_nil]

theorem Looks.print {text : String} : Looks h (fun _ => True) (print text) := fun _ none => ⟨none, fun _ _ => trivial⟩

theorem Looks.warn {warnings : List String} : Looks h (fun _ => True) (warn warnings) :=
  fun _ none => ⟨none, fun _ _ => trivial⟩

theorem Looks.bind (first : Looks h Q x) (then_ : ∀ a, Q a → Looks h R (next a)) : Looks h R (x >>= next) := by
  intro c none
  obtain ⟨none, said⟩ := first c none
  rw [perform_bind]
  generalize x.perform h c = done at none said
  obtain ⟨e | a, d⟩ := done
  · exact ⟨none, nofun⟩
  · exact then_ a (said a rfl) d none

theorem Looks.forM {ι : Type} {each : ι → Action Unit} {is : List ι} (all : ∀ i, Looks h (fun _ => True) (each i)) :
    Looks h (fun _ => True) (is.forM each) := by
  induction is with
  | nil => exact Looks.pure trivial
  | cons i is ih =>
    show Looks h _ (each i >>= fun _ => is.forM each)
    exact (all i).bind fun _ _ => ih

/-! ## Writing -/

/-- The action does not fail, and replaces only what is allowed. -/
def Writes (h : Host) (P : Replacement → Prop) (x : Action α) : Prop :=
  ∀ c, ∃ a d, x.perform h c = (.ok a, d) ∧ ∀ r ∈ d.effects, r ∈ c.effects ∨ P r

theorem Writes.pure {a : α} : Writes h P (pure a) := fun c => ⟨a, c, rfl, fun _ => .inl⟩

theorem Writes.print {text : String} : Writes h P (print text) := fun _ => ⟨(), _, rfl, fun _ => .inl⟩

theorem Writes.warn {warnings : List String} : Writes h P (warn warnings) := fun _ => ⟨(), _, rfl, fun _ => .inl⟩

theorem Writes.replace {r : Replacement} (allowed : P r) : Writes h P (replace r) := by
  intro c
  refine ⟨(), _, rfl, fun q inside => ?_⟩
  rcases List.mem_append.1 inside with earlier | new
  · exact .inl earlier
  · exact .inr (List.mem_singleton.1 new ▸ allowed)

theorem Writes.bind (first : Writes h P x) (then_ : ∀ a, Writes h P (next a)) : Writes h P (x >>= next) := by
  intro c
  obtain ⟨a, d, done, before⟩ := first c
  obtain ⟨b, e, ended, behind⟩ := then_ a d
  refine ⟨b, e, ?_, fun r inside => (behind r inside).elim (before r) .inr⟩
  rw [perform_bind, done]
  exact ended

theorem Writes.forM {ι : Type} {each : ι → Action Unit} {is : List ι} (all : ∀ i ∈ is, Writes h P (each i)) :
    Writes h P (is.forM each) := by
  induction is with
  | nil => exact Writes.pure
  | cons i is ih =>
    show Writes h P (each i >>= fun _ => is.forM each)
    exact (all i List.mem_cons_self).bind fun _ => ih fun j inside => all j (List.mem_cons_of_mem i inside)

/-! ## All or nothing -/

/-- As long as no file was replaced, the action fails and replaces none, or it succeeds and replaces only what is
allowed. -/
def AllOrNothing (h : Host) (P : Replacement → Prop) (x : Action α) : Prop :=
  ∀ c, c.effects = [] →
    match x.perform h c with
    | (.ok _, d) => ∀ r ∈ d.effects, P r
    | (.error _, d) => d.effects = []

/-- An action that only looks has nothing to undo. -/
theorem Looks.allOrNothing (looks : Looks h Q x) : AllOrNothing h P x := by
  intro c none
  obtain ⟨none, _⟩ := looks c none
  generalize x.perform h c = done at none
  obtain ⟨e | a, d⟩ := done
  · exact none
  · intro r inside
    exact absurd inside (none ▸ List.not_mem_nil)

/-- An action that cannot fail has nothing to undo either. -/
theorem Writes.allOrNothing (writes : Writes h P x) : AllOrNothing h P x := by
  intro c none
  obtain ⟨a, d, done, allowed⟩ := writes c
  rw [done]
  exact fun r inside => (allowed r inside).resolve_left (none ▸ List.not_mem_nil)

/-- Before an action that is all or nothing there may be looked at things. -/
theorem Looks.before (first : Looks h Q x) (then_ : ∀ a, Q a → AllOrNothing h P (next a)) :
    AllOrNothing h P (x >>= next) := by
  intro c none
  obtain ⟨none, said⟩ := first c none
  rw [perform_bind]
  generalize x.perform h c = done at none said
  obtain ⟨e | a, d⟩ := done
  · exact none
  · exact then_ a (said a rfl) d none

/-- Behind an action that is all or nothing there may be written more, as that cannot fail. -/
theorem AllOrNothing.andThen (first : AllOrNothing h P x) (then_ : ∀ a, Writes h P (next a)) :
    AllOrNothing h P (x >>= next) := by
  intro c none
  have done := first c none
  rw [perform_bind]
  generalize x.perform h c = before at done
  obtain ⟨e | a, d⟩ := before
  · exact done
  · obtain ⟨b, e, ended, allowed⟩ := then_ a d
    simp only [ended]
    exact fun r inside => (allowed r inside).elim (done r) id

/-- The exit code is zero if the action comes to an end, and then its effects are those that were performed. -/
theorem outcome_eq_ok {x : Action Unit} {rs : List Replacement} :
    (x.outcome h).exitCode = 0 ∧ (x.outcome h).effects = rs ↔
      ∃ d, x.perform h .begun = (.ok (), d) ∧ d.effects = rs := by
  simp only [outcome, Outcome.exitCode]
  obtain ⟨e | a, d⟩ := x.perform h .begun
  · exact iff_of_false (fun done => e.ending.code_ne_zero done.1) nofun
  · constructor
    · exact fun done => ⟨d, rfl, done.2⟩
    · rintro ⟨_, ⟨⟩, same⟩
      exact ⟨rfl, same⟩

/-- The outcome of a command that is all or nothing. -/
theorem AllOrNothing.outcome {x : Action Unit} (all : AllOrNothing h P x) :
    ((x.outcome h).exitCode ≠ 0 ∧ (x.outcome h).effects = []) ∨
      (x.outcome h).exitCode = 0 ∧ ∀ r ∈ (x.outcome h).effects, P r := by
  have done := all .begun rfl
  simp only [Action.outcome, Outcome.exitCode]
  generalize x.perform h .begun = ended at done
  obtain ⟨e | a, d⟩ := ended
  · exact .inl ⟨e.ending.code_ne_zero, done⟩
  · exact .inr ⟨rfl, done⟩

end Action

end PrinterWiring.CommandLine
