import PrinterWiring.Proofs.Settings.Texts

/-!
# Settings as a store

Settings are a store of texts. Setting a key has an effect on that key alone, and the text that the key then shows can
be set again. So settings that were reached by calls are settled: each of their texts can be set and changes nothing,
and the listing of all of them, set on standard settings, rebuilds them (`reached_rebuilt`).
-/

namespace PrinterWiring

namespace Settings

/-- Something that is done to settings by a key. -/
inductive Call where
  | set (key text : String)
  | unset (key : String)

/-- The settings after a call. One that is refused or has no setting key leaves them as they were. -/
def after (s : Settings) : Call → Settings
  | .set key text =>
    match s.setNamed key text with
    | .ok (some t) => t
    | _ => s
  | .unset key => (s.unsetNamed key).getD s

/-- What calls make of standard settings. -/
def reached (calls : List Call) : Settings := calls.foldl after standard

/-- Sets pairs of a key and a text in turn, up to the first that is refused or has no setting key. -/
def setEach (s : Settings) : List (String × String) → Except SettingError (Option Settings)
  | [] => .ok (some s)
  | (key, text) :: pairs =>
    match s.setNamed key text with
    | .ok (some t) => t.setEach pairs
    | refused => refused

/-- The entries under the names of their keys. -/
def listing (s : Settings) : List (String × String) := s.entries.map fun p => (p.1.name, p.2)

/-- What setting a key from a text does. -/
structure Stores (s : Settings) (key text : String) : Prop where
  unknown : s.setNamed key text = .ok none ↔ key ∉ SettingKey.names
  refused : (∀ t, s.setNamed key text ≠ .ok (some t)) → s.after (.set key text) = s
  others : ∀ t, s.setNamed key text = .ok (some t) → ∀ other, other ≠ key → t.getNamed? other = s.getNamed? other
  again : ∀ t, s.setNamed key text = .ok (some t) →
    ∀ shown, t.getNamed? key = some shown → t.setNamed key shown = .ok (some t)
  undone : (s.after (.set key text)).unsetNamed key = s.unsetNamed key

variable {s t u : Settings} {k j : SettingKey} {v w key text : String}

/-! ## One key -/

theorem setNamed_name : s.setNamed k.name v = (s.set k v).map some := by
  rw [setNamed, SettingKey.named?_name]

private theorem setNamed_eq_some :
    s.setNamed key text = .ok (some t) ↔ ∃ k, SettingKey.named? key = some k ∧ s.set k text = .ok t := by
  unfold setNamed
  cases SettingKey.named? key with
  | none => simp
  | some k => simp [map_eq_ok]

private theorem setNamed_eq_none : s.setNamed key text = .ok none ↔ key ∉ SettingKey.names := by
  rw [SettingKey.names, ← Enumerated.named?_eq_none, setNamed]
  change _ ↔ SettingKey.named? key = none
  cases SettingKey.named? key with
  | none => simp
  | some k => simp [map_eq_ok]

/-- A setting that is unset is at its standard value, and the others stay. -/
theorem get?_unset (s : Settings) (k j : SettingKey) :
    (s.unset k).get? j = if j = k then standard.get? j else s.get? j := by
  by_cases same : j = k
  · subst same
    rw [if_pos rfl]
    cases j <;> rfl
  · rw [if_neg same]
    cases k <;> cases j <;> first | exact absurd rfl same | rfl

/-- Setting what is there already changes nothing. -/
theorem eq_of_set (done : s.set k v = .ok t) (same : t.get? k = s.get? k) : t = s := by
  apply ext_get?
  intro j
  by_cases here : j = k
  · rw [here, same]
  · exact get?_set_of_ne done here

private theorem chooseAmong_trim {α : Type} [DecidableEq α] [Enumerated α] (name : α → String) (s : String) :
    chooseAmong name (Text.trim s) = chooseAmong name s := by
  simp only [chooseAmong, Text.trim_trim]

/-- What is shown of a text after it was set can be set, and is shown then. -/
theorem exists_set_shown (done : s.set k v = .ok t) (shown : t.get? k = some w) :
    ∃ u, t.set k w = .ok u ∧ u.get? k = some w := by
  unfold set at done ⊢
  cases k with
  | extruderSensor | bedSensor | mcuSerial | toolboardUuid =>
    simp only [setTrimmed, Except.ok.injEq] at done
    subst done
    simp only [get?] at shown
    have trimmed : Text.trim w = w := by
      rw [← (Text.nonEmpty?_eq_some.mp shown).1, Text.trim_trim]
    simp only [setTrimmed, Except.ok.injEq, exists_eq_left', get?, trimmed]
    exact Text.nonEmpty?_eq_some.mpr ⟨rfl, (Text.nonEmpty?_eq_some.mp shown).2⟩
  | kinematics =>
    simp only [setTrimmed, map_eq_ok] at done
    obtain ⟨a, -, rfl⟩ := done
    cases shown
    simp only [setTrimmed]
    rw [readChoice, Kinematics.parse, chooseAmong_trim, ← Kinematics.parse, a.parse_name]
    exact ⟨_, rfl, rfl⟩
  | driver =>
    simp only [setTrimmed, map_eq_ok] at done
    obtain ⟨a, -, rfl⟩ := done
    cases shown
    simp only [setTrimmed]
    rw [readChoice, Driver.parse, chooseAmong_trim, ← Driver.parse, a.parse_name]
    exact ⟨_, rfl, rfl⟩
  | probeKind =>
    simp only [setTrimmed, map_eq_ok] at done
    obtain ⟨a, -, rfl⟩ := done
    cases shown
    simp only [setTrimmed]
    rw [readChoice, ProbeKind.parse, chooseAmong_trim, ← ProbeKind.parse, a.parse_name]
    exact ⟨_, rfl, rfl⟩
  | zStop =>
    simp only [setTrimmed, map_eq_ok] at done
    obtain ⟨a, -, rfl⟩ := done
    cases shown
    simp only [setTrimmed]
    rw [readChoice, ZStop.parse, chooseAmong_trim, ← ZStop.parse, a.parse_name]
    exact ⟨_, rfl, rfl⟩
  | bedSizeX | bedSizeY | zHeight | maxVelocity | maxAccel | runCurrent =>
    simp only [setTrimmed, map_eq_ok] at done
    obtain ⟨n, read, rfl⟩ := done
    cases shown
    have positive : ¬ n = 0 := UInt32.pos_iff_ne_zero.mp (pos_of_readPositive read)
    simp only [setTrimmed]
    rw [wordText, Text.trim_toString, ← wordText, readPositive_wordText, if_neg positive]
    exact ⟨_, rfl, rfl⟩
  | microsteps =>
    simp only [setTrimmed, map_eq_ok] at done
    obtain ⟨n, read, rfl⟩ := done
    cases shown
    simp only [setTrimmed]
    rw [Text.trim_toString, readSteps_toString, if_pos (mem_stepCounts_of_readSteps read)]
    exact ⟨_, rfl, rfl⟩

/-- The text that a setting shows can be set again. -/
theorem set_again (done : s.set k v = .ok t) (shown : t.get? k = some w) : t.set k w = .ok t := by
  obtain ⟨u, again, same⟩ := exists_set_shown done shown
  rw [again, eq_of_set again (same.trans shown.symm)]

/-! ## Settled settings -/

/-- Settings whose texts can all be set, and change nothing. -/
def Settled (s : Settings) : Prop := ∀ k v, s.get? k = some v → s.set k v = .ok s

/-- A text that changes nothing in some settings changes nothing in others that show the same. -/
theorem set_of_same (still : u.set k w = .ok u) (same : t.get? k = u.get? k) : t.set k w = .ok t := by
  obtain ⟨t', done, shown⟩ := set_get?_congr still t
  rw [done, eq_of_set done (shown.trans same.symm)]

private theorem settled_standard : standard.Settled := by
  intro k v shown
  cases k <;> cases shown <;> rfl

theorem Settled.set (settled : s.Settled) (done : s.set k v = .ok t) : t.Settled := by
  intro j w shown
  by_cases here : j = k
  · subst here
    exact set_again done shown
  · have kept : t.get? j = s.get? j := get?_set_of_ne done here
    exact set_of_same (settled j w (kept ▸ shown)) kept

theorem Settled.unset (settled : s.Settled) (k : SettingKey) : (s.unset k).Settled := by
  intro j w shown
  have kept := get?_unset s k j
  by_cases here : j = k
  · rw [if_pos here] at kept
    exact set_of_same (settled_standard j w (kept ▸ shown)) kept
  · rw [if_neg here] at kept
    exact set_of_same (settled j w (kept ▸ shown)) kept

theorem Settled.after (settled : s.Settled) (call : Call) : (s.after call).Settled := by
  cases call with
  | set key text =>
    simp only [Settings.after]
    split
    · next t done =>
      obtain ⟨k, -, done⟩ := setNamed_eq_some.mp done
      exact settled.set done
    · exact settled
  | unset key =>
    simp only [Settings.after, unsetNamed]
    cases SettingKey.named? key with
    | none => exact settled
    | some k => exact settled.unset k

private theorem settled_reached (calls : List Call) : (reached calls).Settled :=
  List.foldlRecOn calls after settled_standard fun _ settled call _ => settled.after call

/-! ## Listings -/

/-- Setting what settled settings show for some keys makes other settings show the same for them. -/
theorem setEach_shown (settled : s.Settled) (u : Settings) (ks : List SettingKey) :
    ∃ t, u.setEach ((ks.filterMap fun k => (s.get? k).map (k, ·)).map fun p => (p.1.name, p.2)) = .ok (some t) ∧
      ∀ j, t.get? j = if j ∈ ks then (s.get? j).or (u.get? j) else u.get? j := by
  induction ks generalizing u with
  | nil => exact ⟨u, rfl, fun j => rfl⟩
  | cons k ks ih =>
    cases held : s.get? k with
    | none =>
      obtain ⟨t, done, shown⟩ := ih u
      refine ⟨t, by simpa [held] using done, fun j => ?_⟩
      rw [shown]
      by_cases here : j = k
      · simp [here, held]
      · simp [here]
    | some v =>
      obtain ⟨u', first, own⟩ := set_get?_congr (settled k v held) u
      obtain ⟨t, done, shown⟩ := ih u'
      refine ⟨t, ?_, fun j => ?_⟩
      · simpa [held, setEach, setNamed_name, first, Except.map] using done
      · rw [shown]
        by_cases here : j = k
        · simp [here, own, held]
        · simp [here, get?_set_of_ne first here]

/-- A setting that standard settings have is never without a text. -/
theorem or_standard (s : Settings) (k : SettingKey) : (s.get? k).or (standard.get? k) = s.get? k := by
  cases k <;> first | exact Option.or_none | rfl

/-- Settled settings are rebuilt from their listing. -/
theorem Settled.rebuilt (settled : s.Settled) : standard.setEach s.listing = .ok (some s) := by
  obtain ⟨t, done, shown⟩ := setEach_shown settled standard Enumerated.all
  rw [listing, entries, done, ext_get? (s := t) (t := s)]
  intro k
  rw [shown, if_pos (Enumerated.mem_all k), or_standard]

theorem stores (s : Settings) (key text : String) : s.Stores key text where
  unknown := setNamed_eq_none
  refused := by
    intro refused
    cases answer : s.setNamed key text with
    | error e => simp only [Settings.after, answer]
    | ok found =>
      cases found with
      | none => simp only [Settings.after, answer]
      | some t => exact absurd answer (refused t)
  others := by
    intro t done other apart
    obtain ⟨k, named, done⟩ := setNamed_eq_some.mp done
    unfold getNamed?
    cases found : SettingKey.named? other with
    | none => rfl
    | some j =>
      have distinct : j ≠ k := by
        rintro rfl
        exact apart ((Enumerated.name_of_named? found).symm.trans (Enumerated.name_of_named? named))
      exact get?_set_of_ne done distinct
  again := by
    intro t done shown held
    obtain ⟨k, named, done⟩ := setNamed_eq_some.mp done
    rw [getNamed?, named] at held
    rw [setNamed, named]
    simp only [set_again done held, Except.map]
  undone := by
    simp only [Settings.after]
    split
    · next t done =>
      obtain ⟨k, named, done⟩ := setNamed_eq_some.mp done
      unfold unsetNamed
      rw [named, Option.map_some, Option.map_some, Option.some.injEq]
      apply ext_get?
      intro j
      rw [get?_unset, get?_unset]
      split_ifs with here
      · rfl
      · exact get?_set_of_ne done here
    · rfl

/-- Setting a key changes it alone and can be undone and repeated, and settings that were reached by calls are rebuilt
from their listing. -/
theorem reached_rebuilt : (∀ s : Settings, ∀ key text, s.Stores key text) ∧
    ∀ calls, standard.setEach (reached calls).listing = .ok (some (reached calls)) := by
  constructor
  · intro s key text
    exact stores s key text
  · intro calls
    exact (settled_reached calls).rebuilt

end Settings

end PrinterWiring
