import Mathlib.Data.List.Infix
import Mathlib.Data.List.Nodup
import PrinterWiring.Pin.Resolve
import PrinterWiring.Proofs.Catalog.Accepted
import PrinterWiring.Proofs.Tables
import PrinterWiring.Proofs.Text.Cut

/-!
# What ports resolve to

A port resolves to the pins that the function asks for and the port wires, each with the marks that it is asked for
with (`Port.get?_of_resolve`). It never fails to (`Port.exists_resolve`), and without the main pins of its category it has
no pins that suit it, so these never lack.
A raw pin has no colon: a colon in the text of a pin is that of its controller, which only the toolboard has.
-/

namespace PrinterWiring

/-! ## Requests -/

private theorem pinRequests_distinct (f : PrinterFunction) (pins : PinSet) (o : PinOptions) :
    ((pinRequests f pins o).map (·.name)).Nodup := by
  cases pins <;> simp [pinRequests]

/-- A pin that a function cannot do without is wired by every port that it is asked of. -/
theorem exists_raw_of_required {f : PrinterFunction} {pins : PinSet} {o : PinOptions} {r : PinRequest}
    (asked : r ∈ pinRequests f pins o) (required : r.required = true) : ∃ raw, pins.raw? r.name = some raw := by
  cases pins <;> simp only [pinRequests, List.mem_cons, List.not_mem_nil, or_false] at asked
  case motor m =>
    rcases asked with rfl | rfl | rfl | rfl | rfl | rfl <;> simp_all [PinSet.raw?]
  case simple pin =>
    subst asked
    exact ⟨pin, rfl⟩
  case probe signal servo =>
    rcases asked with rfl | rfl <;> simp_all [PinSet.raw?]

/-- The pins that every port of a category has. -/
def Category.mainPins : Category → List PinName
  | .motor => [.step, .dir, .enable]
  | .probe => [.signal]
  | _ => [.pin]

namespace Port

variable {p : Port} {f : PrinterFunction} {role : Role} {o : PinOptions} {pins : ResolvedPins}

/-- Adds the pin of a request to those that were resolved before. -/
def answer (p : Port) (role : Role) (pins : ResolvedPins) (r : PinRequest) : Except WiringError ResolvedPins :=
  match p.resolvePin role r.name r.modifiers with
  | .ok text => .ok (pins.insert r.name text)
  | .error e => if r.required then .error e else .ok pins

private theorem get?_answer {t : ResolvedPins} {r : PinRequest} (done : p.answer role t r = .ok pins) (name : PinName) :
    pins.get? name =
      if name = r.name then ((p.pins.raw? name).map (pinText role · r.modifiers)).or (t.get? name)
      else t.get? name := by
  unfold answer resolvePin at done
  cases wired : p.pins.raw? r.name with
  | some raw =>
    simp only [wired, Except.ok.injEq] at done
    rw [← done, Table.get?_insert]
    split
    · next same => simp [same, wired]
    · rfl
  | none =>
    simp only [wired] at done
    split at done
    · cases done
    · cases done
      split
      · next same => simp [same, wired]
      · rfl

private theorem get?_foldlM {rs : List PinRequest} (distinct : (rs.map (·.name)).Nodup) {t : ResolvedPins}
    (done : rs.foldlM (p.answer role) t = .ok pins) (name : PinName) :
    pins.get? name =
      ((rs.find? (·.name = name)).bind fun r => (p.pins.raw? name).map (pinText role · r.modifiers)).or
        (t.get? name) := by
  induction rs generalizing t with
  | nil =>
    cases done
    simp
  | cons r rs ih =>
    rw [List.foldlM_cons, bind_eq_ok] at done
    obtain ⟨t', first, rest⟩ := done
    rw [List.map_cons, List.nodup_cons] at distinct
    rw [ih distinct.2 rest, get?_answer first]
    by_cases here : r.name = name
    · have last : rs.find? (·.name = name) = none := by
        rw [List.find?_eq_none]
        intro r' later same
        exact distinct.1 (List.mem_map.mpr ⟨r', later, (of_decide_eq_true same).trans here.symm⟩)
      simp [last, here]
    · simp [here, Ne.symm here]

/-- A port resolves to the pins that are asked for and wired. -/
theorem get?_of_resolve (resolved : p.resolve f role o = .ok pins) (name : PinName) :
    pins.get? name = ((pinRequests f p.pins o).find? (·.name = name)).bind fun r =>
      (p.pins.raw? name).map (pinText role · r.modifiers) := by
  rw [get?_foldlM (pinRequests_distinct f p.pins o) resolved, Table.get?_empty, Option.or_none]

private theorem exists_foldlM {rs : List PinRequest}
    (wired : ∀ r ∈ rs, r.required = true → ∃ raw, p.pins.raw? r.name = some raw) (t : ResolvedPins) :
    ∃ pins, rs.foldlM (p.answer role) t = .ok pins := by
  induction rs generalizing t with
  | nil => exact ⟨t, rfl⟩
  | cons r rs ih =>
    obtain ⟨here, later⟩ := List.forall_mem_cons.mp wired
    have first : ∃ t', p.answer role t r = .ok t' := by
      unfold answer resolvePin
      cases held : p.pins.raw? r.name with
      | some raw => exact ⟨_, rfl⟩
      | none =>
        have spared : ¬ r.required = true := fun required => by
          obtain ⟨raw, wired⟩ := here required
          cases held.symm.trans wired
        exact ⟨t, by simp only [if_neg spared]⟩
    obtain ⟨t', answered⟩ := first
    obtain ⟨pins, done⟩ := ih later t'
    exact ⟨pins, by rw [List.foldlM_cons, answered]; exact done⟩

/-- Every port resolves for every function, whatever its options. -/
theorem exists_resolve (p : Port) (f : PrinterFunction) (role : Role) (o : PinOptions) :
    ∃ pins, p.resolve f role o = .ok pins :=
  exists_foldlM (fun _ asked required => exists_raw_of_required asked required) _

/-- A resolved pin is one of the port, with its controller and its marks. -/
theorem exists_raw_of_get? (resolved : p.resolve f role o = .ok pins) {name : PinName} {v : String}
    (held : pins.get? name = some v) : ∃ raw m, p.pins.raw? name = some raw ∧ v = pinText role raw m := by
  rw [get?_of_resolve resolved] at held
  obtain ⟨r, _, held⟩ := Option.bind_eq_some_iff.mp held
  obtain ⟨raw, wired, same⟩ := Option.map_eq_some_iff.mp held
  exact ⟨raw, r.modifiers, wired, same.symm⟩

/-- The main pins of a category are never missing. -/
theorem exists_main (resolved : p.resolve f role o = .ok pins) (suits : p.pins.Suits p.category) {name : PinName}
    (main : name ∈ p.category.mainPins) : ∃ v, pins.get? name = some v := by
  rw [get?_of_resolve resolved]
  cases kind : p.pins with
  | motor m =>
    rw [kind] at suits
    rw [show p.category = .motor from suits] at main
    simp only [Category.mainPins, List.mem_cons, List.not_mem_nil, or_false] at main
    rcases main with rfl | rfl | rfl <;> simp [pinRequests, PinSet.raw?]
  | probe signal servo =>
    rw [kind] at suits
    rw [show p.category = .probe from suits] at main
    simp only [Category.mainPins, List.mem_singleton] at main
    subst main
    simp [pinRequests, PinSet.raw?]
  | simple pin =>
    rw [kind] at suits
    have only : p.category.mainPins = [.pin] := by
      cases sort : p.category with
      | motor => exact absurd sort suits.1
      | probe => exact absurd sort suits.2
      | heater | thermistor | fan | endstop | misc => rfl
    rw [only, List.mem_singleton] at main
    subst main
    simp [pinRequests, PinSet.raw?]

end Port

/-! ## The text of a pin -/

/-- The text in front of the first colon, if there is a colon. -/
def Text.front? (s : String) : Option String := (splitFirst? ':' s).map (·.1)

theorem Text.front?_append {s t : String} (clean : ':' ∉ s.toList) : front? (s ++ ":" ++ t) = some s := by
  rw [front?, show ":" = String.singleton ':' from rfl, splitFirst?_append clean, Option.map_some]

private theorem Text.front?_eq_none {s : String} (clean : ':' ∉ s.toList) : front? s = none := by
  rw [front?, splitFirst?, cutFirst?_eq_none clean]
  rfl

theorem not_mem_of_isRawPin {raw : String} (valid : isRawPin raw = true) {c : Char} (other : isPinChar c = false) :
    c ∉ raw.toList := by
  intro inside
  rw [isRawPin, Bool.and_eq_true, List.all_eq_true] at valid
  rw [valid.2 c inside] at other
  cases other

/-- The marks of a pin as they are written. -/
def Modifiers.marks (m : Modifiers) : String := (if m.pullup then "^" else "") ++ (if m.invert then "!" else "")

/-- In front of the colon of a pin stand its marks and the controller. -/
theorem front?_pinText {role : Role} {raw : String} (valid : isRawPin raw = true) (m : Modifiers) :
    Text.front? (pinText role raw m) = role.controller?.map (m.marks ++ ·) := by
  have clean : ':' ∉ raw.toList := not_mem_of_isRawPin valid (by decide)
  obtain ⟨pullup, invert⟩ := m
  cases role with
  | mainboard =>
    apply Text.front?_eq_none
    cases pullup <;> cases invert <;> simpa [pinText, Role.controller?] using clean
  | toolboard =>
    have text : pinText .toolboard raw ⟨pullup, invert⟩ =
        Modifiers.marks ⟨pullup, invert⟩ ++ "toolboard" ++ ":" ++ raw := by
      simp [pinText, Modifiers.marks, Role.controller?, String.append_assoc]
    rw [text, Text.front?_append (by cases pullup <;> cases invert <;> decide)]
    rfl

/-! ## Pins of the toolboard -/

/-- A text that names the controller of the toolboard for a pin. -/
def OnToolboard (v : String) : Prop := "toolboard:".toList <:+: v.toList

instance (v : String) : Decidable (OnToolboard v) := inferInstanceAs (Decidable (_ <:+: _))

private theorem infix_of_infix_append_cons {l xs ys : List Char} {y : Char} (within : l <:+: xs ++ y :: ys)
    (clean : y ∉ l) :
    l <:+: xs ∨ l <:+: ys := by
  obtain ⟨before, after, whole⟩ := within
  rcases List.append_eq_append_iff.mp whole with ⟨c, split, _⟩ | ⟨c, split, rest⟩
  · exact .inl ⟨before, c, split.symm⟩
  · -- `c` is what the two sides of `y` have of `before ++ l` behind `xs`; it is empty or starts with `y`.
    cases c with
    | nil => exact .inl ⟨before, [], by simpa using split⟩
    | cons y' c =>
      rw [List.cons_append, List.cons.injEq] at rest
      obtain ⟨rfl, rest⟩ := rest
      rcases List.append_eq_append_iff.mp split with ⟨d, _, tail⟩ | ⟨d, _, tail⟩
      · exact absurd (tail ▸ List.mem_append_right d (List.mem_cons_self ..)) clean
      · cases d with
        | nil => exact absurd (List.nil_append l ▸ tail ▸ List.mem_cons_self ..) clean
        | cons _ d =>
          rw [List.cons_append, List.cons.injEq] at tail
          exact .inr ⟨d, after, by rw [rest, tail.2]⟩

/-- Only a pin of the toolboard names the controller of the toolboard. -/
theorem onToolboard_pinText {role : Role} {raw : String} (valid : isRawPin raw = true) {m : Modifiers}
    (named : OnToolboard (pinText role raw m)) : role = .toolboard := by
  cases role with
  | toolboard => rfl
  | mainboard =>
    have clean : ':' ∉ raw.toList := not_mem_of_isRawPin valid (by decide)
    have colon : ':' ∈ (pinText .mainboard raw m).toList := named.subset (by decide)
    obtain ⟨pullup, invert⟩ := m
    cases pullup <;> cases invert <;> simp [pinText, Role.controller?, clean] at colon

theorem onToolboard_pair {first second : String} (named : OnToolboard (first ++ ", " ++ second)) :
    OnToolboard first ∨ OnToolboard second := by
  have split : (first ++ ", " ++ second).toList = first.toList ++ ',' :: ([] ++ ' ' :: second.toList) := by simp
  unfold OnToolboard at named
  rw [split] at named
  rcases infix_of_infix_append_cons named (by decide) with left | rest
  · exact .inl left
  · rcases infix_of_infix_append_cons rest (by decide) with none | right
    · exact absurd (List.infix_nil.mp none) (by decide)
    · exact .inr right

end PrinterWiring
