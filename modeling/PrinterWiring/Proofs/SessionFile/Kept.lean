import PrinterWiring.Proofs.SessionFile.Effect
import PrinterWiring.Proofs.Text.Numeral

/-!
# Values that a line keeps

A value is kept by a line if it is read back from it as it was. For each kind of target it is said which values are:
texts that are `Plain` and not in quotes, ports with plain ids, positive numbers, numbers of microsteps that drivers
have, and all names.
-/

namespace PrinterWiring.SessionFile

/-- A text without blanks around it and without line feeds, which is not empty. -/
structure Plain (s : String) : Prop where
  filled : s ≠ ""
  trimmed : Text.trim s = s
  line : Text.OneLine s

/-- The value stays on its line, and what a target has after that line is the value again. -/
def Kept (t : Target) (value : String) : Prop :=
  Text.OneLine value ∧ reading t (stripped value) = .ok (some value)

/-! ## Texts -/

/-- Nothing is taken off a text only if it is trimmed and not in quotes. -/
theorem stripped_eq_self_iff {s : String} : stripped s = s ↔ Text.trim s = s ∧ ¬ Quoted s := by
  constructor
  · intro same
    have outer : (Text.trim s).toList.length ≤ s.toList.length := (Text.trim_within s).length_le
    have inner := (unquote_within (Text.trim s)).length_le
    rw [show unquote (Text.trim s) = s from same] at inner
    have trimmed : Text.trim s = s := Text.trim_eq_self_of_length (by omega)
    refine ⟨trimmed, ?_⟩
    rw [stripped, trimmed] at same
    exact unquote_eq_self_iff.mp same
  · rintro ⟨trimmed, bare⟩
    rw [stripped, trimmed, unquote_of_not_quoted bare]

/-- A text is left as it is if it is trimmed and not in quotes. -/
theorem trim_stripped_eq_self_iff {s : String} : Text.trim (stripped s) = s ↔ Text.trim s = s ∧ ¬ Quoted s := by
  constructor
  · intro same
    have outer := (Text.trim_within (stripped s)).length_le
    have inner := (stripped_within s).length_le
    rw [same] at outer
    have whole : stripped s = s := by
      apply String.toList_inj.mp
      exact (stripped_within s).eq_of_length (by omega)
    exact stripped_eq_self_iff.mp whole
  · intro both
    rw [stripped_eq_self_iff.mpr both, both.1]

private theorem plain_bare_iff {s : String} :
    Text.OneLine s ∧ (Text.trim s = s ∧ ¬ Quoted s) ∧ s ≠ "" ↔ Plain s ∧ ¬ Quoted s :=
  ⟨fun ⟨line, ⟨trimmed, bare⟩, filled⟩ => ⟨⟨filled, trimmed, line⟩, bare⟩,
    fun ⟨⟨filled, trimmed, line⟩, bare⟩ => ⟨line, ⟨trimmed, bare⟩, filled⟩⟩

theorem kept_board_iff {role : Role} {id : String} : Kept (.board role) id ↔ Plain id ∧ ¬ Quoted id := by
  rw [Kept, reading_board, Except.ok.injEq, Text.nonEmpty?_eq_some, stripped_eq_self_iff, plain_bare_iff]

theorem reading_setting_ok {k : SettingKey} {value : String} {text : Option String} :
    reading (.setting k) value = .ok text ↔ ∃ s, Settings.standard.set k value = .ok s ∧ s.get? k = text := by
  have shown : reading (.setting k) value =
      ((Settings.standard.set k value).mapError ValueError.setting).map (·.get? k) := by
    unfold reading
    simp only [Draft.put]
    rw [show Draft.empty.settings = Settings.standard from rfl]
    cases Settings.standard.set k value <;> rfl
  simp only [shown, map_eq_ok, mapError_eq_ok]

/-- The settings that are free texts. -/
def freeTexts : List SettingKey := [.extruderSensor, .bedSensor, .mcuSerial, .toolboardUuid]

theorem set_freeText {k : SettingKey} (free : k ∈ freeTexts) {value : String} {text : Option String} :
    (∃ s, Settings.standard.set k value = .ok s ∧ s.get? k = text) ↔ Text.nonEmpty? (Text.trim value) = text := by
  simp only [freeTexts, List.mem_cons, List.not_mem_nil, or_false] at free
  rcases free with rfl | rfl | rfl | rfl <;> simp [Settings.set, Settings.setTrimmed, Settings.get?]

/-- A free text is kept if it is plain and not in quotes. -/
theorem kept_freeText_iff {k : SettingKey} (free : k ∈ freeTexts) {v : String} :
    Kept (.setting k) v ↔ Plain v ∧ ¬ Quoted v := by
  rw [Kept, reading_setting_ok, set_freeText free, Text.nonEmpty?_eq_some, trim_stripped_eq_self_iff, plain_bare_iff]

/-! ## Numbers -/

private theorem all_isKeyChar_toString (n : Nat) : (toString n).toList.all isKeyChar = true := by
  refine List.all_eq_true.mpr fun c inside => ?_
  have digit := Text.isDigit_of_mem_toString inside
  have bounds : 48 ≤ c.toNat ∧ c.toNat ≤ 57 := by
    simpa [Char.isDigit, UInt32.le_iff_toNat_le] using digit
  have apart : ∀ d : Char, d.toNat < 48 ∨ 57 < d.toNat → c ≠ d := by
    rintro d outside rfl
    omega
  have filled : Text.isBlank c = false := Text.isBlank_of_isDigit digit
  simp [isKeyChar, filled, apart '=' (by decide), apart '#' (by decide), apart '"' (by decide)]

/-- The settings that are positive numbers. -/
def measures : List SettingKey := [.bedSizeX, .bedSizeY, .zHeight, .maxVelocity, .maxAccel, .runCurrent]

/-- A measure is kept if it is positive. -/
theorem kept_measure_iff {k : SettingKey} (measure : k ∈ measures) {n : UInt32} :
    Kept (.setting k) (Settings.wordText n) ↔ 0 < n := by
  have solid : (Settings.wordText n).toList.all isKeyChar = true := all_isKeyChar_toString n.toNat
  have trimmed := trim_of_all_isKeyChar solid
  have read := Settings.readPositive_wordText k n
  rw [Kept, stripped_of_all_isKeyChar solid, reading_setting_ok, and_iff_right (oneLine_of_all_isKeyChar solid)]
  by_cases zero : n = 0
  · rw [if_pos zero] at read
    simp only [measures, List.mem_cons, List.not_mem_nil, or_false] at measure
    rcases measure with rfl | rfl | rfl | rfl | rfl | rfl <;>
      simp only [Settings.set, trimmed, Settings.setTrimmed, read, Except.map] <;> simp [zero]
  · rw [if_neg zero] at read
    have positive : 0 < n := UInt32.pos_iff_ne_zero.mpr zero
    simp only [measures, List.mem_cons, List.not_mem_nil, or_false] at measure
    rcases measure with rfl | rfl | rfl | rfl | rfl | rfl <;>
      simp only [Settings.set, trimmed, Settings.setTrimmed, read, Except.map] <;> simp [Settings.get?, positive]

theorem kept_microsteps_iff {n : UInt16} :
    Kept (.setting .microsteps) (toString n.toNat) ↔ n.toNat ∈ Settings.stepCounts := by
  have solid := all_isKeyChar_toString n.toNat
  have read := Settings.readSteps_toString .microsteps n
  rw [Kept, stripped_of_all_isKeyChar solid, reading_setting_ok, and_iff_right (oneLine_of_all_isKeyChar solid)]
  by_cases step : n.toNat ∈ Settings.stepCounts
  · rw [if_pos step] at read
    simp only [Settings.set, trim_of_all_isKeyChar solid, Settings.setTrimmed, read, Except.map]
    simp [Settings.get?, step]
  · rw [if_neg step] at read
    simp only [Settings.set, trim_of_all_isKeyChar solid, Settings.setTrimmed, read, Except.map]
    simp [step]

/-! ## Names -/

private theorem kept_choice {α : Type} {name : α → String} {k : SettingKey} {a : α} {s : Settings}
    (solid : (name a).toList.all isKeyChar = true) (chosen : Settings.standard.setTrimmed k (name a) = .ok s)
    (shown : s.get? k = some (name a)) : Kept (.setting k) (name a) := by
  refine ⟨oneLine_of_all_isKeyChar solid, ?_⟩
  rw [stripped_of_all_isKeyChar solid, reading_setting_ok, Settings.set, trim_of_all_isKeyChar solid]
  exact ⟨s, chosen, shown⟩

theorem kept_kinematics (a : Kinematics) : Kept (.setting .kinematics) a.name := by
  have solid : ∀ a : Kinematics, a.name.toList.all isKeyChar = true := by decide +kernel
  refine kept_choice (s := { Settings.standard with kinematics := some a }) (solid a) ?_ rfl
  simp only [Settings.setTrimmed, Settings.readChoice, Kinematics.parse_name, mapError_ok, Except.map]

theorem kept_driver (a : Driver) : Kept (.setting .driver) a.name := by
  have solid : ∀ a : Driver, a.name.toList.all isKeyChar = true := by decide +kernel
  refine kept_choice (s := { Settings.standard with driver := some a }) (solid a) ?_ rfl
  simp only [Settings.setTrimmed, Settings.readChoice, Driver.parse_name, mapError_ok, Except.map]

theorem kept_probeKind (a : ProbeKind) : Kept (.setting .probeKind) a.name := by
  have solid : ∀ a : ProbeKind, a.name.toList.all isKeyChar = true := by decide +kernel
  refine kept_choice (s := { Settings.standard with probeKind := some a }) (solid a) ?_ rfl
  simp only [Settings.setTrimmed, Settings.readChoice, ProbeKind.parse_name, mapError_ok, Except.map]

theorem kept_zStop (a : ZStop) : Kept (.setting .zStop) a.name := by
  have solid : ∀ a : ZStop, a.name.toList.all isKeyChar = true := by decide +kernel
  refine kept_choice (s := { Settings.standard with zStop := a }) (solid a) ?_ rfl
  simp only [Settings.setTrimmed, Settings.readChoice, ZStop.parse_name, mapError_ok, Except.map]

private theorem all_isKeyChar_role (role : Role) : role.name.toList.all isKeyChar = true := by
  cases role <;> decide

theorem parse_role_name (role : Role) : Role.parse role.name = .ok role := by
  unfold Role.parse
  rw [trim_of_all_isKeyChar (all_isKeyChar_role role)]
  cases role <;> rfl

theorem kept_location (f : PrinterFunction) (role : Role) : Kept (.location f) role.name := by
  refine ⟨oneLine_of_all_isKeyChar (all_isKeyChar_role role), ?_⟩
  rw [stripped_of_all_isKeyChar (all_isKeyChar_role role), reading_location]
  exact ⟨role, parse_role_name role, rfl⟩

theorem kept_invert (f : PrinterFunction) (b : Bool) : Kept (.invert f) (truthText b) := by
  have solid : (truthText b).toList.all isKeyChar = true := by cases b <;> decide
  have truth : readTruth (truthText b) = .ok b := by cases b <;> rfl
  refine ⟨oneLine_of_all_isKeyChar solid, ?_⟩
  rw [stripped_of_all_isKeyChar solid, reading_invert]
  exact ⟨b, truth, rfl⟩

theorem kept_pullup (f : PrinterFunction) (b : Bool) : Kept (.pullup f) (truthText b) := by
  have solid : (truthText b).toList.all isKeyChar = true := by cases b <;> decide
  have truth : readTruth (truthText b) = .ok b := by cases b <;> rfl
  refine ⟨oneLine_of_all_isKeyChar solid, ?_⟩
  rw [stripped_of_all_isKeyChar solid, reading_pullup]
  exact ⟨b, truth, rfl⟩

/-! ## Ports -/

private theorem stripped_toText (a : Address) :
    stripped a.toText = (⟨a.role, .ofList (Text.dropBlanksRight a.port.toList)⟩ : Address).toText := by
  have front : (a.role.name ++ ":").toList.all isKeyChar = true := by cases a.role <;> decide
  have filled : (a.role.name ++ ":").toList ≠ [] := by simp
  have solid {c : Char} (inside : c ∈ (a.role.name ++ ":").toList) : isKeyChar c = true :=
    List.all_eq_true.mp front c inside
  have kept := Text.trimChars_append filled a.port.toList
    (fun c first => not_blank_of_isKeyChar (solid (List.mem_of_mem_head? first)))
    (fun c last => not_blank_of_isKeyChar (solid (List.mem_of_mem_getLast? last)))
  have trimmed : Text.trim a.toText = (⟨a.role, .ofList (Text.dropBlanksRight a.port.toList)⟩ : Address).toText := by
    apply String.toList_inj.mp
    rw [Text.toList_trim]
    simpa [Address.toText] using kept
  rw [stripped, trimmed]
  refine unquote_of_not_quoted ?_
  rintro ⟨_, start, _⟩
  rw [Address.toText, String.toList_append, List.head?_append_of_ne_nil _ filled] at start
  exact absurd (solid (List.mem_of_mem_head? start)) (by decide)

/-- From the text of an address, the address is read with its port trimmed, unless that leaves nothing of it. -/
theorem reading_port_ok {k : SlotKey} {a : Address} {text : Option String} :
    reading (.port k) (stripped a.toText) = .ok text ↔
      Text.trim a.port ≠ "" ∧ text = some (⟨a.role, Text.trim a.port⟩ : Address).toText := by
  have clean : ':' ∉ a.role.name.toList := by cases a.role <;> decide
  have cut : Text.splitFirst? ':' (⟨a.role, .ofList (Text.dropBlanksRight a.port.toList)⟩ : Address).toText =
      some (a.role.name, .ofList (Text.dropBlanksRight a.port.toList)) := Text.splitFirst?_append clean
  have inner : Text.trim (.ofList (Text.dropBlanksRight a.port.toList)) = Text.trim a.port := by
    rw [Text.trim, String.toList_ofList, Text.trimChars_dropBlanksRight, Text.trim]
  have filled : (⟨a.role, .ofList (Text.dropBlanksRight a.port.toList)⟩ : Address).toText.isEmpty = false := by
    rw [Bool.eq_false_iff]
    intro none
    simp [Address.toText] at none
  rw [stripped_toText]
  simp only [reading, Draft.put, filled, Bool.false_eq_true, if_false, Address.parse, cut, inner, parse_role_name,
    map_eq_ok, mapError_eq_ok]
  by_cases none : Text.trim a.port = ""
  · simp [none]
  · have rest : (Text.trim a.port).isEmpty = false := by
      rw [Bool.eq_false_iff, ne_eq, String.isEmpty_iff]
      exact none
    simp [none, rest, Except.map, Draft.shown, Table.get?_insert, eq_comm]

/-- A port is kept if its id is plain: in front of it stands the role, so it is not in quotes. -/
theorem kept_port_iff {k : SlotKey} {a : Address} : Kept (.port k) a.toText ↔ Plain a.port := by
  have line : Text.OneLine a.toText ↔ Text.OneLine a.port := by
    have front : Text.OneLine a.role.name ∧ Text.OneLine ":" := by cases a.role <;> decide
    simp [Address.toText, front.1, front.2]
  rw [Kept, reading_port_ok, line, Option.some.injEq, toText_injective.eq_iff]
  constructor
  · rintro ⟨whole, filled, same⟩
    have trimmed : Text.trim a.port = a.port := (congrArg Address.port same).symm
    exact ⟨trimmed ▸ filled, trimmed, whole⟩
  · rintro ⟨filled, trimmed, whole⟩
    rw [trimmed]
    exact ⟨whole, filled, rfl⟩

/-! ## Line feeds -/

private theorem oneLine_map {α : Type} {name : α → String} (whole : ∀ a, Text.OneLine (name a)) {x : Option α}
    {text : String} (shown : x.map name = some text) : Text.OneLine text := by
  obtain ⟨a, _, rfl⟩ := Option.map_eq_some_iff.mp shown
  exact whole a

private theorem oneLine_wordText (n : UInt32) : Text.OneLine (Settings.wordText n) :=
  oneLine_of_all_isKeyChar (all_isKeyChar_toString n.toNat)

private theorem oneLine_get? {s : Settings} {k : SettingKey} (bound : k ∉ freeTexts) {text : String}
    (shown : s.get? k = some text) : Text.OneLine text := by
  cases k with
  | kinematics => exact oneLine_map (fun a => (kept_kinematics a).1) shown
  | bedSizeX | bedSizeY | zHeight => exact oneLine_map oneLine_wordText shown
  | maxVelocity | maxAccel | runCurrent =>
    cases shown
    exact oneLine_wordText _
  | driver => exact oneLine_map (fun a => (kept_driver a).1) shown
  | microsteps =>
    cases shown
    exact oneLine_of_all_isKeyChar (all_isKeyChar_toString _)
  | probeKind => exact oneLine_map (fun a => (kept_probeKind a).1) shown
  | zStop =>
    cases shown
    exact (kept_zStop _).1
  | extruderSensor | bedSensor | mcuSerial | toolboardUuid => exact absurd (by decide) bound

private theorem oneLine_of_set {k : SettingKey} {value text : String} {s : Settings} (line : Text.OneLine value)
    (set : Settings.standard.set k value = .ok s) (shown : s.get? k = some text) : Text.OneLine text := by
  by_cases free : k ∈ freeTexts
  · have trimmed := (set_freeText free).mp ⟨s, set, shown⟩
    rw [← (Text.nonEmpty?_eq_some.mp trimmed).1]
    exact line.trim
  · exact oneLine_get? free shown

theorem oneLine_of_parse {value : String} {a : Address} (line : Text.OneLine value)
    (read : Address.parse value = .ok a) : Text.OneLine a.toText := by
  unfold Address.parse at read
  split at read
  · cases read
  · next role port cut =>
    split_ifs at read
    obtain ⟨r, _, rfl⟩ := map_eq_ok.mp read
    rw [Text.splitFirst?_eq_some cut, Text.oneLine_append] at line
    have front : Text.OneLine r.name ∧ Text.OneLine ":" := by cases r <;> decide
    rw [Address.toText, Text.oneLine_append, Text.oneLine_append]
    exact ⟨front, line.2.trim⟩

/-- From a value on one line, nothing with a line feed is read. -/
theorem oneLine_of_reading {t : Target} {value text : String} (line : Text.OneLine value)
    (read : reading t value = .ok (some text)) : Text.OneLine text := by
  cases t with
  | board role =>
    rw [reading_board, Except.ok.injEq, Text.nonEmpty?_eq_some] at read
    exact read.1 ▸ line
  | setting k =>
    obtain ⟨s, set, shown⟩ := reading_setting_ok.mp read
    exact oneLine_of_set line set shown
  | port k =>
    rcases reading_address.mp read with ⟨_, none⟩ | ⟨_, a, parsed, same⟩
    · cases none
    · exact Option.some.inj same ▸ oneLine_of_parse line parsed
  | location f =>
    obtain ⟨role, _, same⟩ := reading_location.mp read
    exact Option.some.inj same ▸ (kept_location f role).1
  | invert f =>
    obtain ⟨b, _, same⟩ := reading_invert.mp read
    exact Option.some.inj same ▸ (kept_invert f b).1
  | pullup f =>
    obtain ⟨b, _, same⟩ := reading_pullup.mp read
    exact Option.some.inj same ▸ (kept_pullup f b).1

private theorem oneLine_of_empty {t : Target} {text : String} (shown : Draft.empty.shown t = some text) :
    Text.OneLine text := by
  cases t with
  | board role => simp [Draft.shown, Draft.empty] at shown
  | setting k =>
    by_cases free : k ∈ freeTexts
    · simp only [freeTexts, List.mem_cons, List.not_mem_nil, or_false] at free
      rcases free with rfl | rfl | rfl | rfl <;> cases shown
    · exact oneLine_get? free shown
  | port k => simp [Draft.shown, Draft.empty] at shown
  | location f => simp [Draft.shown, Draft.empty] at shown
  | invert f =>
    cases shown
    exact (kept_invert f _).1
  | pullup f =>
    cases shown
    exact (kept_pullup f _).1

theorem mem_of_lastFor {t : Target} {value : String} {es : List (Target × String)} (last : lastFor t es = some value) :
    (t, value) ∈ es := by
  induction es with
  | nil => cases last
  | cons e es ih =>
    cases later : lastFor t es with
    | some v =>
      simp only [lastFor, later, Option.some_or, Option.some.injEq] at last
      exact List.mem_cons_of_mem _ (ih (later.trans (congrArg some last)))
    | none =>
      simp only [lastFor, later, Option.none_or] at last
      split_ifs at last with here
      cases last
      exact here ▸ List.mem_cons_self ..

/-- Nothing that is read from a file holds a line feed. -/
theorem oneLine_of_read {s : String} {d : Draft} (read : putAll .empty ((Text.lines s).filterMap addressed?) = .ok d)
    {t : Target} {text : String} (shown : d.shown t = some text) : Text.OneLine text := by
  obtain ⟨decided, kept⟩ := putAll_shown read t
  cases last : lastFor t ((Text.lines s).filterMap addressed?) with
  | none => exact oneLine_of_empty ((kept last).symm.trans shown)
  | some value =>
    obtain ⟨l, inside, here⟩ := List.mem_filterMap.mp (mem_of_lastFor last)
    have line := (Text.oneLine_of_mem_lines inside).within (value_within_of_addressed? here)
    exact oneLine_of_reading line (shown ▸ decided value last)

end PrinterWiring.SessionFile
