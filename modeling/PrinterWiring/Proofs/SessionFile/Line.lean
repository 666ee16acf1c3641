import PrinterWiring.Proofs.Names
import PrinterWiring.Proofs.Text.Trim
import PrinterWiring.SessionFile.Reader

/-!
# One line of a session file

Every target has a name, and a line `name=value` addresses that target (`addressed?_line`). Of the value, `stripped` is
read: without the blanks around it, and without one pair of quotes.
-/

namespace PrinterWiring.SessionFile

/-! ## Values -/

/-- What is read of the value of a line. -/
def stripped (value : String) : String := unquote (Text.trim value)

/-- A text that stands in double quotes. -/
def Quoted (s : String) : Prop := 2 ≤ s.toList.length ∧ s.toList.head? = some '"' ∧ s.toList.getLast? = some '"'

instance (s : String) : Decidable (Quoted s) := inferInstanceAs (Decidable (_ ∧ _ ∧ _))

theorem unquote_of_not_quoted {s : String} (plain : ¬ Quoted s) : unquote s = s := by
  unfold unquote
  split
  · next rest start =>
    split_ifs with stop
    · refine absurd ⟨?_, ?_, ?_⟩ plain
      · have filled : rest ≠ [] := by rintro rfl; cases stop
        have counted := List.length_pos_iff.mpr filled
        rw [start, List.length_cons]
        omega
      · rw [start]; rfl
      · rw [start, List.getLast?_cons, stop]; rfl
    · rfl
  · rfl

private theorem toList_unquote_of_quoted {s : String} (quoted : Quoted s) :
    ∃ rest, s.toList = '"' :: rest ∧ rest ≠ [] ∧ (unquote s).toList = rest.dropLast := by
  obtain ⟨long, start, stop⟩ := quoted
  cases shape : s.toList with
  | nil => simp [shape] at start
  | cons c rest =>
    rw [shape] at long start stop
    cases start
    have filled : rest ≠ [] := by rintro rfl; simp at long
    have last : rest.getLast? = some '"' := by
      cases rest with
      | nil => exact absurd rfl filled
      | cons d rest => rwa [List.getLast?_cons_cons] at stop
    exact ⟨rest, rfl, filled, by simp [unquote, shape, last]⟩

theorem unquote_within (s : String) : (unquote s).toList <:+: s.toList := by
  by_cases quoted : Quoted s
  · obtain ⟨rest, shape, _, inner⟩ := toList_unquote_of_quoted quoted
    rw [inner, shape]
    exact (List.dropLast_prefix rest).isInfix.trans (List.suffix_cons '"' rest).isInfix
  · rw [unquote_of_not_quoted quoted]

/-- Quotes are taken off texts in quotes only. -/
theorem unquote_eq_self_iff {s : String} : unquote s = s ↔ ¬ Quoted s := by
  refine ⟨fun same quoted => ?_, unquote_of_not_quoted⟩
  obtain ⟨rest, shape, _, inner⟩ := toList_unquote_of_quoted quoted
  have shorter := congrArg (List.length ∘ String.toList) same
  simp only [Function.comp_apply, inner, shape, List.length_dropLast, List.length_cons] at shorter
  omega

theorem stripped_within (value : String) : (stripped value).toList <:+: value.toList :=
  (unquote_within _).trans (Text.trim_within _)

/-! ## Keys -/

/-- A character that may stand in the name of a target. -/
def isKeyChar (c : Char) : Bool := !Text.isBlank c && c ≠ '=' && c ≠ '#' && c ≠ '"'

theorem not_blank_of_isKeyChar {c : Char} (key : isKeyChar c = true) : Text.isBlank c = false := by
  simp only [isKeyChar, Bool.and_eq_true, Bool.not_eq_true'] at key
  exact key.1.1.1

theorem trim_of_all_isKeyChar {s : String} (solid : s.toList.all isKeyChar = true) : Text.trim s = s :=
  Text.trim_of_solid fun c inside => not_blank_of_isKeyChar (List.all_eq_true.mp solid c inside)

theorem stripped_of_all_isKeyChar {s : String} (solid : s.toList.all isKeyChar = true) : stripped s = s := by
  rw [stripped, trim_of_all_isKeyChar solid]
  refine unquote_of_not_quoted fun ⟨_, start, _⟩ => ?_
  have quote := List.all_eq_true.mp solid _ (List.mem_of_mem_head? start)
  exact absurd quote (by decide)

theorem oneLine_of_all_isKeyChar {s : String} (solid : s.toList.all isKeyChar = true) : Text.OneLine s := by
  intro feed
  exact absurd (List.all_eq_true.mp solid _ feed) (by decide)

/-- The name of a target, as keys are written. -/
def Target.name : Target → String
  | .board role => "board." ++ role.name
  | .setting key => key.name
  | .port key => key.function.key ++ "." ++ key.slot.portField
  | .location f => f.key ++ ".location"
  | .invert f => f.key ++ ".invert"
  | .pullup f => f.key ++ ".pullup"

private theorem all_isKeyChar_key (f : PrinterFunction) : f.key.toList.all isKeyChar = true := by
  revert f
  decide +kernel

private theorem all_isKeyChar_settingName (k : SettingKey) : k.name.toList.all isKeyChar = true := by
  revert k
  decide +kernel

theorem Target.all_isKeyChar (t : Target) : t.name.toList.all isKeyChar = true := by
  have joined (f : PrinterFunction) {field : String} (solid : field.toList.all isKeyChar = true) :
      (f.key ++ field).toList.all isKeyChar = true := by
    rw [String.toList_append, List.all_append, all_isKeyChar_key, solid]
    rfl
  cases t with
  | board role => cases role <;> decide
  | setting key => exact all_isKeyChar_settingName key
  | port key =>
    rw [name, String.append_assoc]
    refine joined key.function ?_
    cases key.slot <;> decide
  | location f => exact joined f (by decide)
  | invert f => exact joined f (by decide)
  | pullup f => exact joined f (by decide)

private theorem Target.name_ne_nil (t : Target) : t.name.toList ≠ [] := by
  cases t with
  | setting key =>
    revert key
    decide +kernel
  | _ => simp [name]

/-- The fields that a function has. -/
def fieldNames : List String := ["port", "port_2", "location", "invert", "pullup"]

private theorem mem_fieldNames {f : PrinterFunction} {field : String} {t : Target}
    (target : Target.ofField? f field = some t) : field ∈ fieldNames := by
  unfold Target.ofField? at target
  split_ifs at target <;> simp_all [fieldNames]

/-- After its last dot, no key but those of functions has the name of a field. -/
private theorem field_not_last {key before last field : String} (own : field ∈ fieldNames)
    (cut : Text.splitLast? '.' key = some (before, last)) (other : last ∉ fieldNames) (f : PrinterFunction) :
    f.key ++ "." ++ field ≠ key := by
  rintro rfl
  have listed : ∀ field ∈ fieldNames, '.' ∉ field.toList := by decide
  have parts : Text.splitLast? '.' (f.key ++ "." ++ field) = some (f.key, field) :=
    Text.splitLast?_append (listed field own)
  rw [parts] at cut
  cases cut
  exact other own

private theorem settingName_ne_field {field : String} (own : field ∈ fieldNames) (k : SettingKey)
    (f : PrinterFunction) : f.key ++ "." ++ field ≠ k.name := by
  have dotted : ∀ k : SettingKey, ∃ p ∈ Text.splitLast? '.' k.name, p.2 ∉ fieldNames := by decide +kernel
  obtain ⟨⟨before, last⟩, cut, other⟩ := dotted k
  exact field_not_last own cut other f

private theorem ofKey?_field {f : PrinterFunction} {field : String} {t : Target}
    (target : Target.ofField? f field = some t) : Target.ofKey? (f.key ++ "." ++ field) = some t := by
  have own := mem_fieldNames target
  have cutMain : Text.splitLast? '.' "board.mainboard" = some ("board", "mainboard") := by decide
  have cutTool : Text.splitLast? '.' "board.toolboard" = some ("board", "toolboard") := by decide
  have notMain : f.key ++ "." ++ field ≠ "board.mainboard" := field_not_last own cutMain (by decide) f
  have notTool : f.key ++ "." ++ field ≠ "board.toolboard" := field_not_last own cutTool (by decide) f
  have notSetting : SettingKey.named? (f.key ++ "." ++ field) = none := by
    refine List.find?_eq_none.mpr fun k _ same => ?_
    exact settingName_ne_field own k f (beq_iff_eq.mp same).symm
  have listed : ∀ field ∈ fieldNames, '.' ∉ field.toList := by decide
  have parts : Text.splitLast? '.' (f.key ++ "." ++ field) = some (f.key, field) :=
    Text.splitLast?_append (listed field own)
  simp only [Target.ofKey?, notMain, notTool, if_false, notSetting, parts, bind, Option.bind, PrinterFunction.parse?_key, target]

/-- The name of a target addresses it. -/
theorem ofKey?_name (t : Target) : Target.ofKey? t.name = some t := by
  cases t with
  | board role => cases role <;> rfl
  | setting key =>
    have notMain : key.name ≠ "board.mainboard" := by
      cases key <;> simp [SettingKey.name]
    have notTool : key.name ≠ "board.toolboard" := by
      cases key <;> simp [SettingKey.name]
    simp only [Target.ofKey?, Target.name, notMain, notTool, if_false, SettingKey.named?_name]
  | port key =>
    obtain ⟨f, slot⟩ := key
    exact ofKey?_field (by cases slot <;> simp [Target.ofField?, Slot.portField])
  | location f =>
    rw [Target.name, show ".location" = "." ++ "location" from rfl, ← String.append_assoc]
    exact ofKey?_field (by simp [Target.ofField?])
  | invert f =>
    rw [Target.name, show ".invert" = "." ++ "invert" from rfl, ← String.append_assoc]
    exact ofKey?_field (by simp [Target.ofField?])
  | pullup f =>
    rw [Target.name, show ".pullup" = "." ++ "pullup" from rfl, ← String.append_assoc]
    exact ofKey?_field (by simp [Target.ofField?])

/-! ## Lines -/

/-- The line that gives a target a value. -/
def line (t : Target) (value : String) : String := t.name ++ "=" ++ value

/-- The target that a line addresses, and the value that it has for it. -/
def addressed? (s : String) : Option (Target × String) :=
  match keyValue s with
  | .ok (some (key, value)) => (Target.ofKey? key).map (·, value)
  | _ => none

private theorem isKeyChar_name {t : Target} {c : Char} (inside : c ∈ t.name.toList) :
    Text.isBlank c = false ∧ c ≠ '=' ∧ c ≠ '#' := by
  have passes := List.all_eq_true.mp t.all_isKeyChar c inside
  simp only [isKeyChar, Bool.and_eq_true, Bool.not_eq_true', decide_eq_true_eq] at passes
  exact ⟨passes.1.1.1, passes.1.1.2, passes.1.2⟩

private theorem trim_name (t : Target) : Text.trim t.name = t.name := trim_of_all_isKeyChar t.all_isKeyChar

private theorem trim_line (t : Target) (value : String) :
    Text.trim (line t value) = line t (.ofList (Text.dropBlanksRight value.toList)) := by
  have first : ∀ c ∈ (t.name.toList ++ ['=']).head?, Text.isBlank c = false := by
    intro c first
    rw [List.head?_append_of_ne_nil _ t.name_ne_nil] at first
    exact (isKeyChar_name (List.mem_of_mem_head? first)).1
  have last : ∀ c ∈ (t.name.toList ++ ['=']).getLast?, Text.isBlank c = false := by
    intro c last
    simp only [List.getLast?_append, List.getLast?_singleton, Option.some_or, Option.mem_def, Option.some.injEq] at last
    rw [← last]
    rfl
  apply String.toList_inj.mp
  have front := Text.trimChars_append (p := t.name.toList ++ ['=']) (by simp) value.toList first last
  simpa [Text.toList_trim, line] using front

/-- A line that is written for a target has its name and its value. -/
theorem keyValue_line (t : Target) (value : String) :
    keyValue (line t value) = .ok (some (t.name, stripped value)) := by
  have clean : '=' ∉ t.name.toList := fun inside => (isKeyChar_name inside).2.1 rfl
  have filled : (line t (.ofList (Text.dropBlanksRight value.toList))).isEmpty = false := by
    rw [Bool.eq_false_iff]
    intro none
    simp [line] at none
  have start : (line t (.ofList (Text.dropBlanksRight value.toList))).toList.head? ≠ some '#' := by
    intro hash
    rw [line, String.toList_append, String.toList_append, List.append_assoc,
      List.head?_append_of_ne_nil _ t.name_ne_nil] at hash
    exact (isKeyChar_name (List.mem_of_mem_head? hash)).2.2 rfl
  have cut : Text.splitFirst? '=' (line t (.ofList (Text.dropBlanksRight value.toList))) =
      some (t.name, .ofList (Text.dropBlanksRight value.toList)) := Text.splitFirst?_append clean
  have inner : Text.trim (.ofList (Text.dropBlanksRight value.toList)) = Text.trim value := by
    rw [Text.trim, String.toList_ofList, Text.trimChars_dropBlanksRight, Text.trim]
  simp only [keyValue, trim_line, filled, beq_eq_false_iff_ne.mpr start, Bool.or_self, Bool.false_eq_true, if_false, cut,
    trim_name, inner, stripped]

/-- A line that is written for a target addresses it. -/
theorem addressed?_line (t : Target) (value : String) : addressed? (line t value) = some (t, stripped value) := by
  simp only [addressed?, keyValue_line, ofKey?_name, Option.map_some]

private theorem value_within_of_keyValue {s key value : String} (parts : keyValue s = .ok (some (key, value))) :
    value.toList <:+: s.toList := by
  unfold keyValue at parts
  simp only at parts
  split_ifs at parts with silent
  · cases parts
  · split at parts
    · cases parts
    · next before after cut =>
      cases parts
      have whole := congrArg String.toList (Text.splitFirst?_eq_some cut)
      simp only [String.toList_append, String.toList_singleton] at whole
      have tail : after.toList <:+: (Text.trim s).toList := ⟨before.toList ++ ['='], [], by simp [whole]⟩
      exact (stripped_within after).trans (tail.trans (Text.trim_within s))

/-- The value of a line is a part of the line. -/
theorem value_within_of_addressed? {s value : String} {t : Target} (here : addressed? s = some (t, value)) :
    value.toList <:+: s.toList := by
  unfold addressed? at here
  split at here
  · next key value' parts =>
    obtain ⟨_, _, same⟩ := Option.map_eq_some_iff.mp here
    cases same
    exact value_within_of_keyValue parts
  · cases here

end PrinterWiring.SessionFile
