import PrinterWiring.Proofs.SessionFile.Line
import PrinterWiring.Proofs.Settings.Texts
import PrinterWiring.Proofs.Tables

/-!
# What the lines of a session file do

A draft is known by the text that it has for each target (`toDocument_congr`). A line changes the text of the target
that it addresses and of no other, and what it changes it to does not depend on the draft (`put_ok`). So the last line
for a target decides (`putAll_shown`), and a file is read exactly if each of its lines can be read (`read_ok_iff`).
-/

namespace PrinterWiring.SessionFile

/-- A truth value as text. -/
def truthText (b : Bool) : String := if b then "true" else "false"

namespace Draft

/-- The pin options that a draft has for a function. -/
def optionsOf (d : Draft) (f : PrinterFunction) : PinOptions := (d.options.get? f).getD .standard

/-- The text that a draft has for a target. -/
def shown (d : Draft) : Target → Option String
  | .board role => d.boards.get? role
  | .setting key => d.settings.get? key
  | .port key => (d.ports.get? key).map Address.toText
  | .location f => (d.locations.get? f).map Role.name
  | .invert f => some (truthText (d.optionsOf f).invert)
  | .pullup f => some (truthText (!(d.optionsOf f).suppressPullup))

end Draft

/-- The text that a target has after a line with a value. -/
def reading (t : Target) (value : String) : Except ValueError (Option String) :=
  (Draft.empty.put t value).map (·.shown t)

variable {d d' : Draft} {t : Target} {value : String}

/-! ## What a draft has -/

/-- No two addresses are written alike. -/
theorem toText_injective : Function.Injective Address.toText := by
  intro a b same
  obtain ⟨role, port⟩ := a
  obtain ⟨role', port'⟩ := b
  have clean (r : Role) : ':' ∉ r.name.toList := by cases r <;> decide
  have cut (r : Role) (p : String) : Text.splitFirst? ':' (⟨r, p⟩ : Address).toText = some (r.name, p) :=
    Text.splitFirst?_append (clean r)
  have parts := cut role port
  rw [same, cut role' port', Option.some.injEq, Prod.mk.injEq] at parts
  rw [Role.name_injective parts.1, parts.2]

theorem truthText_injective : Function.Injective truthText := by
  intro a b same
  cases a <;> cases b <;> first | rfl | exact absurd same (by decide)

private theorem optionsOf_congr (same : ∀ t, d.shown t = d'.shown t) (f : PrinterFunction) :
    d.optionsOf f = d'.optionsOf f := by
  have invert : (d.optionsOf f).invert = (d'.optionsOf f).invert :=
    truthText_injective (Option.some.inj (same (.invert f)))
  have pullup : (!(d.optionsOf f).suppressPullup) = !(d'.optionsOf f).suppressPullup :=
    truthText_injective (Option.some.inj (same (.pullup f)))
  cases own : d.optionsOf f
  cases other : d'.optionsOf f
  simp_all

theorem get?_marked (d : Draft) (f : PrinterFunction) :
    (d.options.filter fun _ o => !o.isStandard).get? f =
      if (d.optionsOf f).isStandard then none else some (d.optionsOf f) := by
  rw [Table.get?_filter, Draft.optionsOf]
  cases d.options.get? f with
  | none => rfl
  | some o => cases standard : o.isStandard <;> simp [Option.filter, standard]

/-- Drafts with the same texts for all targets make the same document. -/
theorem toDocument_congr (same : ∀ t, d.shown t = d'.shown t) : d.toDocument = d'.toDocument := by
  have boards : d.boards = d'.boards := Table.ext fun role => same (.board role)
  have ports : d.ports = d'.ports := Table.ext fun k => Option.map_injective toText_injective (same (.port k))
  have locations : d.locations = d'.locations :=
    Table.ext fun f => Option.map_injective Role.name_injective (same (.location f))
  have settings : d.settings = d'.settings := Settings.ext_get? fun k => same (.setting k)
  have options : (d.options.filter fun _ o => !o.isStandard) = d'.options.filter fun _ o => !o.isStandard :=
    Table.ext fun f => by rw [get?_marked, get?_marked, optionsOf_congr same]
  simp only [Draft.toDocument, boards, ports, locations, settings, options]

/-! ## One line -/

private theorem optionsOf_changeOptions (d : Draft) (f g : PrinterFunction) (change : PinOptions → PinOptions) :
    (d.changeOptions f change).optionsOf g = if g = f then change (d.optionsOf f) else d.optionsOf g := by
  simp only [Draft.optionsOf, Draft.changeOptions, Table.get?_insert]
  split_ifs <;> rfl

private theorem put_board {role : Role} (done : d.put (.board role) value = .ok d') :
    reading (.board role) value = .ok (d'.shown (.board role)) ∧ ∀ j, j ≠ .board role → d'.shown j = d.shown j := by
  cases done
  refine ⟨by simp [reading, Draft.put, Draft.shown, Except.map], fun j other => ?_⟩
  cases j with
  | board role' => exact Table.get?_put_of_ne fun same => other (same ▸ rfl)
  | _ => rfl

private theorem put_setting {key : SettingKey} (done : d.put (.setting key) value = .ok d') :
    reading (.setting key) value = .ok (d'.shown (.setting key)) ∧ ∀ j, j ≠ .setting key → d'.shown j = d.shown j := by
  simp only [Draft.put, map_eq_ok, mapError_eq_ok] at done
  obtain ⟨s, set, rfl⟩ := done
  obtain ⟨u, fresh, same⟩ := Settings.set_get?_congr set Settings.standard
  refine ⟨?_, fun j other => ?_⟩
  · have empty : Draft.empty.settings.set key value = .ok u := fresh
    simp only [reading, Draft.put, empty, mapError_ok, Except.map, Draft.shown, same]
  · cases j with
    | setting key' => exact Settings.get?_set_of_ne set fun same => other (same ▸ rfl)
    | _ => rfl

private theorem put_port {key : SlotKey} (done : d.put (.port key) value = .ok d') :
    reading (.port key) value = .ok (d'.shown (.port key)) ∧ ∀ j, j ≠ .port key → d'.shown j = d.shown j := by
  have frame : ∀ x, (∀ j, j ≠ .port key → ({ d with ports := d.ports.put key x } : Draft).shown j = d.shown j) := by
    intro x j other
    cases j with
    | port key' =>
      have apart : key' ≠ key := fun same => other (same ▸ rfl)
      simp only [Draft.shown, Table.get?_put_of_ne apart]
    | _ => rfl
  simp only [Draft.put] at done
  split_ifs at done with none
  · cases done
    exact ⟨by simp [reading, Draft.put, none, Except.map, Draft.shown, Table.get?_erase], frame _⟩
  · simp only [map_eq_ok, mapError_eq_ok] at done
    obtain ⟨a, address, rfl⟩ := done
    refine ⟨?_, frame _⟩
    simp [reading, Draft.put, none, address, mapError_ok, Except.map, Draft.shown, Table.get?_insert]

private theorem put_location {f : PrinterFunction} (done : d.put (.location f) value = .ok d') :
    reading (.location f) value = .ok (d'.shown (.location f)) ∧ ∀ j, j ≠ .location f → d'.shown j = d.shown j := by
  simp only [Draft.put, map_eq_ok, mapError_eq_ok] at done
  obtain ⟨role, place, rfl⟩ := done
  refine ⟨?_, fun j other => ?_⟩
  · simp [reading, Draft.put, place, mapError_ok, Except.map, Draft.shown, Table.get?_insert]
  · cases j with
    | location f' =>
      have apart : f' ≠ f := fun same => other (same ▸ rfl)
      simp [Draft.shown, Table.get?_insert, apart]
    | _ => rfl

private theorem put_invert {f : PrinterFunction} (done : d.put (.invert f) value = .ok d') :
    reading (.invert f) value = .ok (d'.shown (.invert f)) ∧ ∀ j, j ≠ .invert f → d'.shown j = d.shown j := by
  simp only [Draft.put, map_eq_ok] at done
  obtain ⟨b, truth, rfl⟩ := done
  refine ⟨?_, fun j other => ?_⟩
  · simp [reading, Draft.put, truth, Except.map, Draft.shown, optionsOf_changeOptions]
  · cases j with
    | invert f' =>
      have apart : f' ≠ f := fun same => other (same ▸ rfl)
      simp [Draft.shown, optionsOf_changeOptions, apart]
    | pullup f' =>
      by_cases same : f' = f <;> simp [Draft.shown, optionsOf_changeOptions, same]
    | _ => rfl

private theorem put_pullup {f : PrinterFunction} (done : d.put (.pullup f) value = .ok d') :
    reading (.pullup f) value = .ok (d'.shown (.pullup f)) ∧ ∀ j, j ≠ .pullup f → d'.shown j = d.shown j := by
  simp only [Draft.put, map_eq_ok] at done
  obtain ⟨b, truth, rfl⟩ := done
  refine ⟨?_, fun j other => ?_⟩
  · simp [reading, Draft.put, truth, Except.map, Draft.shown, optionsOf_changeOptions]
  · cases j with
    | pullup f' =>
      have apart : f' ≠ f := fun same => other (same ▸ rfl)
      simp [Draft.shown, optionsOf_changeOptions, apart]
    | invert f' =>
      by_cases same : f' = f <;> simp [Draft.shown, optionsOf_changeOptions, same]
    | _ => rfl

/-- A value changes the text of its target alone, and what it changes it to does not depend on the draft. -/
theorem put_ok (done : d.put t value = .ok d') :
    reading t value = .ok (d'.shown t) ∧ ∀ j, j ≠ t → d'.shown j = d.shown j := by
  cases t with
  | board role => exact put_board done
  | setting key => exact put_setting done
  | port key => exact put_port done
  | location f => exact put_location done
  | invert f => exact put_invert done
  | pullup f => exact put_pullup done

/-- A value that one draft takes, every draft takes. -/
theorem put_of_reading {text : Option String} (read : reading t value = .ok text) (d : Draft) :
    ∃ d', d.put t value = .ok d' := by
  obtain ⟨e, done, _⟩ := map_eq_ok.mp read
  cases t with
  | board role => exact ⟨_, rfl⟩
  | setting key =>
    simp only [Draft.put, map_eq_ok, mapError_eq_ok] at done ⊢
    obtain ⟨s, set, _⟩ := done
    obtain ⟨u, set', _⟩ := Settings.set_get?_congr set d.settings
    exact ⟨_, u, set', rfl⟩
  | port key =>
    simp only [Draft.put] at done ⊢
    split_ifs at done ⊢ with none
    · exact ⟨_, rfl⟩
    · simp only [map_eq_ok, mapError_eq_ok] at done ⊢
      obtain ⟨a, address, _⟩ := done
      exact ⟨_, a, address, rfl⟩
  | location f =>
    simp only [Draft.put, map_eq_ok, mapError_eq_ok] at done ⊢
    obtain ⟨role, place, _⟩ := done
    exact ⟨_, role, place, rfl⟩
  | invert f | pullup f =>
    simp only [Draft.put, map_eq_ok] at done ⊢
    obtain ⟨b, truth, _⟩ := done
    exact ⟨_, b, truth, rfl⟩

/-! ## What a value says -/

theorem reading_board (role : Role) (value : String) :
    reading (.board role) value = .ok (Text.nonEmpty? value) := by
  simp [reading, Draft.put, Draft.shown, Except.map]

theorem reading_address {k : SlotKey} {value : String} {text : Option String} :
    reading (.port k) value = .ok text ↔
      (value = "" ∧ text = none) ∨ (value ≠ "" ∧ ∃ a, Address.parse value = .ok a ∧ text = some a.toText) := by
  by_cases none : value = ""
  · have shown : reading (.port k) "" = .ok Option.none := by
      simp [reading, Draft.put, Draft.shown, Except.map, Table.get?_erase]
    rw [none, shown, Except.ok.injEq]
    simp [eq_comm]
  · have filled : value.isEmpty = false := by rwa [Bool.eq_false_iff, ne_eq, String.isEmpty_iff]
    simp only [reading, Draft.put, filled, Bool.false_eq_true, if_false, map_eq_ok, mapError_eq_ok, none, false_and,
      false_or, ne_eq, not_false_eq_true, true_and]
    constructor
    · rintro ⟨d, ⟨a, parsed, rfl⟩, rfl⟩
      exact ⟨a, parsed, by simp [Draft.shown, Table.get?_insert]⟩
    · rintro ⟨a, parsed, rfl⟩
      exact ⟨_, ⟨a, parsed, rfl⟩, by simp [Draft.shown, Table.get?_insert]⟩

theorem reading_location {f : PrinterFunction} {value : String} {text : Option String} :
    reading (.location f) value = .ok text ↔ ∃ role, Role.parse value = .ok role ∧ text = some role.name := by
  simp only [reading, Draft.put, map_eq_ok, mapError_eq_ok]
  constructor
  · rintro ⟨d, ⟨role, parsed, rfl⟩, rfl⟩
    exact ⟨role, parsed, by simp [Draft.shown, Table.get?_insert]⟩
  · rintro ⟨role, parsed, rfl⟩
    exact ⟨_, ⟨role, parsed, rfl⟩, by simp [Draft.shown, Table.get?_insert]⟩

theorem reading_invert {f : PrinterFunction} {value : String} {text : Option String} :
    reading (.invert f) value = .ok text ↔ ∃ b, readTruth value = .ok b ∧ text = some (truthText b) := by
  simp only [reading, Draft.put, map_eq_ok]
  constructor
  · rintro ⟨d, ⟨b, truth, rfl⟩, rfl⟩
    exact ⟨b, truth, by simp [Draft.shown, optionsOf_changeOptions]⟩
  · rintro ⟨b, truth, rfl⟩
    exact ⟨_, ⟨b, truth, rfl⟩, by simp [Draft.shown, optionsOf_changeOptions]⟩

theorem reading_pullup {f : PrinterFunction} {value : String} {text : Option String} :
    reading (.pullup f) value = .ok text ↔ ∃ b, readTruth value = .ok b ∧ text = some (truthText b) := by
  simp only [reading, Draft.put, map_eq_ok]
  constructor
  · rintro ⟨d, ⟨b, truth, rfl⟩, rfl⟩
    exact ⟨b, truth, by simp [Draft.shown, optionsOf_changeOptions]⟩
  · rintro ⟨b, truth, rfl⟩
    exact ⟨_, ⟨b, truth, rfl⟩, by simp [Draft.shown, optionsOf_changeOptions]⟩

/-! ## All lines -/

/-- Gives targets their values in turn. -/
def putAll (d : Draft) (es : List (Target × String)) : Except ValueError Draft :=
  es.foldlM (fun d e => d.put e.1 e.2) d

/-- The value that stands last for a target. -/
def lastFor (t : Target) : List (Target × String) → Option String
  | [] => none
  | e :: es => (lastFor t es).or (if e.1 = t then some e.2 else none)

@[simp] theorem putAll_nil (d : Draft) : putAll d [] = .ok d := rfl

private theorem putAll_cons {e : Target × String} {es : List (Target × String)} :
    putAll d (e :: es) = .ok d' ↔ ∃ mid, d.put e.1 e.2 = .ok mid ∧ putAll mid es = .ok d' := by
  simp only [putAll, List.foldlM_cons, bind_eq_ok]

/-- Lines are put together if each of them can be read. -/
theorem putAll_total_iff {es : List (Target × String)} :
    (∃ d', putAll d es = .ok d') ↔ ∀ e ∈ es, ∃ text, reading e.1 e.2 = .ok text := by
  induction es generalizing d with
  | nil => simp
  | cons e es ih =>
    simp only [putAll_cons, List.forall_mem_cons]
    constructor
    · rintro ⟨d', mid, first, rest⟩
      exact ⟨⟨_, (put_ok first).1⟩, ih.mp ⟨d', rest⟩⟩
    · rintro ⟨⟨text, read⟩, rest⟩
      obtain ⟨mid, first⟩ := put_of_reading read d
      obtain ⟨d', later⟩ := ih.mpr rest
      exact ⟨d', mid, first, later⟩

/-- The value that stands last for a target decides what the target has; without one it keeps what it had. -/
theorem putAll_shown {es : List (Target × String)} (done : putAll d es = .ok d') (t : Target) :
    (∀ value, lastFor t es = some value → reading t value = .ok (d'.shown t)) ∧
      (lastFor t es = none → d'.shown t = d.shown t) := by
  induction es generalizing d with
  | nil =>
    cases done
    exact ⟨fun _ last => by simp [lastFor] at last, fun _ => rfl⟩
  | cons e es ih =>
    obtain ⟨mid, first, rest⟩ := putAll_cons.mp done
    obtain ⟨decided, kept⟩ := ih rest
    cases later : lastFor t es with
    | some value => simpa [lastFor, later] using decided value later
    | none =>
      rw [kept later]
      by_cases here : e.1 = t
      · subst here
        simpa [lastFor, later] using (put_ok first).1
      · simpa [lastFor, later, here] using (put_ok first).2 t (Ne.symm here)

private theorem readLine_ok {s : String} : readLine d s = .ok d' ↔
    (∃ parts, keyValue s = .ok parts) ∧ putAll d (addressed? s).toList = .ok d' := by
  unfold readLine addressed?
  simp only [bind_eq_ok]
  cases keyValue s with
  | error e => simp
  | ok parts =>
    cases parts with
    | none => simp [pure, Except.pure]
    | some p =>
      obtain ⟨key, value⟩ := p
      simp only [Except.ok.injEq, exists_eq_left', exists_eq', true_and]
      cases Target.ofKey? key with
      | none => simp [pure, Except.pure]
      | some t => simp [mapError_eq_ok, putAll_cons]

private theorem readLines_ok {n : Nat} {ls : List String} : readLines d n ls = .ok d' ↔
    (∀ s ∈ ls, ∃ parts, keyValue s = .ok parts) ∧ putAll d (ls.filterMap addressed?) = .ok d' := by
  induction ls generalizing d n with
  | nil => simp [readLines]
  | cons s ls ih =>
    have split : (s :: ls).filterMap addressed? = (addressed? s).toList ++ ls.filterMap addressed? := by
      cases here : addressed? s <;> simp [here]
    have chained : putAll d ((addressed? s).toList ++ ls.filterMap addressed?) = .ok d' ↔
        ∃ mid, putAll d (addressed? s).toList = .ok mid ∧ putAll mid (ls.filterMap addressed?) = .ok d' := by
      simp only [putAll, List.foldlM_append, bind_eq_ok]
    rw [split, chained, List.forall_mem_cons]
    cases first : readLine d s with
    | ok mid =>
      obtain ⟨good, put⟩ := readLine_ok.mp first
      simp [readLines, first, ih, good, put]
    | error cause =>
      simp only [readLines, first, reduceCtorEq, false_iff]
      rintro ⟨⟨good, _⟩, mid, put, _⟩
      cases first.symm.trans (readLine_ok.mpr ⟨good, put⟩)

/-- A file is read exactly if all its lines are lines and the values in them can be read, whatever the order. -/
theorem read_ok_iff {s : String} {doc : Document} : read s = .ok doc ↔
    (∀ l ∈ Text.lines s, ∃ parts, keyValue l = .ok parts) ∧
      ∃ d, putAll .empty ((Text.lines s).filterMap addressed?) = .ok d ∧ d.toDocument = doc := by
  simp only [read, map_eq_ok, readLines_ok]
  constructor
  · rintro ⟨d, ⟨good, put⟩, same⟩
    exact ⟨good, d, put, same⟩
  · rintro ⟨good, d, put, same⟩
    exact ⟨d, ⟨good, put⟩, same⟩

end PrinterWiring.SessionFile
