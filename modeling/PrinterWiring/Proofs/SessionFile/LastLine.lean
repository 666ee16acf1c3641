import Mathlib.Logic.Relation
import PrinterWiring.Proofs.SessionFile.RoundTrip

/-!
# The last line for a target

What a session file says of a target is what the last line for it says; a target without a line has what it has in a
file without lines. So lines for different targets may change places, and lines for no target may come and go: the
document stays the same (`read_last_line`).
-/

namespace PrinterWiring.SessionFile

/-! ## What a file says -/

/-- The value that the last line for a target has for it. -/
def lastValue? (ls : List String) (t : Target) : Option String := lastFor t (ls.filterMap addressed?)

/-- A truth value is the one that a text gives, or the standard one without a text. -/
def Gives (standard : Bool) : Option String → Bool → Prop
  | none, b => b = standard
  | some value, b => readTruth value = .ok b

/-- A document that has of each target what one value says of it, and without a value what is standard. An empty value
says that there is no board, no port or no free text. The two pin options of a function make one entry, which is left
out if both are standard. -/
structure Follows (last : Target → Option String) (d : Document) : Prop where
  boards : ∀ role, d.boards.get? role = (last (.board role)).bind Text.nonEmpty?
  settings : ∀ k, (last (.setting k) = none → d.settings.get? k = Settings.standard.get? k) ∧
    ∀ value, last (.setting k) = some value →
      ∃ s, Settings.standard.set k value = .ok s ∧ d.settings.get? k = s.get? k
  texts : ∀ k ∈ freeTexts, d.settings.get? k = (last (.setting k)).bind fun value => Text.nonEmpty? (Text.trim value)
  increasing : Increasing d.records
  ports : ∀ r, r ∈ d.records ↔
    ∃ value, last (.port r.key) = some value ∧ value ≠ "" ∧ Address.parse value = .ok ⟨r.role, r.port⟩
  locations : ∀ f role, d.locations.get? f = some role ↔
    ∃ value, last (.location f) = some value ∧ Role.parse value = .ok role
  options : ∀ f, ∃ o : PinOptions, Gives false (last (.invert f)) o.invert ∧
    Gives true (last (.pullup f)) (!o.suppressPullup) ∧ d.options.get? f = if o.isStandard then none else some o

section
variable {es : List (Target × String)} {d : Draft}

/-- What a draft shows of a target after all lines: what the last value says, or what the empty draft shows. -/
private theorem shown_last (put : putAll .empty es = .ok d) (t : Target) :
    (lastFor t es = none ∧ d.shown t = Draft.empty.shown t) ∨
      ∃ value, lastFor t es = some value ∧ reading t value = .ok (d.shown t) := by
  obtain ⟨decided, kept⟩ := putAll_shown put t
  cases last : lastFor t es with
  | none => exact .inl ⟨rfl, kept last⟩
  | some value => exact .inr ⟨value, rfl, decided value last⟩

private theorem follows_board (put : putAll .empty es = .ok d) (role : Role) :
    d.boards.get? role = (lastFor (.board role) es).bind Text.nonEmpty? := by
  rcases shown_last put (.board role) with ⟨last, same⟩ | ⟨value, last, read⟩
  · rw [last]
    exact same.trans (Table.get?_empty role)
  · rw [reading_board, Except.ok.injEq] at read
    rw [last]
    exact read.symm

private theorem follows_setting (put : putAll .empty es = .ok d) (k : SettingKey) :
    (lastFor (.setting k) es = none → d.settings.get? k = Settings.standard.get? k) ∧
      ∀ value, lastFor (.setting k) es = some value →
        ∃ s, Settings.standard.set k value = .ok s ∧ d.settings.get? k = s.get? k := by
  rcases shown_last put (.setting k) with ⟨last, same⟩ | ⟨value, last, read⟩
  · exact ⟨fun _ => same, fun value other => by simp [last] at other⟩
  · refine ⟨fun other => by simp [last] at other, fun value' other => ?_⟩
    cases last.symm.trans other
    obtain ⟨s, set, shown⟩ := reading_setting_ok.mp read
    exact ⟨s, set, shown.symm⟩

private theorem follows_text (put : putAll .empty es = .ok d) {k : SettingKey} (free : k ∈ freeTexts) :
    d.settings.get? k = (lastFor (.setting k) es).bind fun value => Text.nonEmpty? (Text.trim value) := by
  obtain ⟨unset, set⟩ := follows_setting put k
  cases last : lastFor (.setting k) es with
  | none =>
    rw [unset last]
    simp only [freeTexts, List.mem_cons, List.not_mem_nil, or_false] at free
    rcases free with rfl | rfl | rfl | rfl <;> rfl
  | some value =>
    obtain ⟨s, done, shown⟩ := set value last
    have trimmed := (set_freeText free).mp ⟨s, done, shown.symm⟩
    rw [Option.bind_some, trimmed]

private theorem follows_port (put : putAll .empty es = .ok d) (r : PortRecord) :
    r ∈ d.toDocument.records ↔
      ∃ value, lastFor (.port r.key) es = some value ∧ value ≠ "" ∧ Address.parse value = .ok ⟨r.role, r.port⟩ := by
  have shown : d.shown (.port r.key) = some (⟨r.role, r.port⟩ : Address).toText ↔
      d.ports.get? r.key = some ⟨r.role, r.port⟩ := by
    rw [Draft.shown, Option.map_eq_some_iff]
    constructor
    · rintro ⟨a, held, same⟩
      rw [held, toText_injective same]
    · exact fun held => ⟨_, held, rfl⟩
  rw [mem_toDocument_records, ← shown]
  rcases shown_last put (.port r.key) with ⟨last, same⟩ | ⟨value, last, read⟩
  · rw [last, same]
    simp [Draft.shown, Draft.empty]
  · simp only [last, Option.some.injEq, exists_eq_left']
    rcases reading_address.mp read with ⟨rfl, none⟩ | ⟨filled, a, parsed, text⟩
    · simp [none]
    · rw [text, parsed, Option.some.injEq, toText_injective.eq_iff, Except.ok.injEq]
      exact (and_iff_right filled).symm

private theorem follows_location (put : putAll .empty es = .ok d) (f : PrinterFunction) (role : Role) :
    d.locations.get? f = some role ↔
      ∃ value, lastFor (.location f) es = some value ∧ Role.parse value = .ok role := by
  have shown : d.shown (.location f) = some role.name ↔ d.locations.get? f = some role := by
    rw [Draft.shown, Option.map_eq_some_iff]
    constructor
    · rintro ⟨role', held, same⟩
      rw [held, Role.name_injective same]
    · exact fun held => ⟨role, held, rfl⟩
  rw [← shown]
  rcases shown_last put (.location f) with ⟨last, same⟩ | ⟨value, last, read⟩
  · rw [last, same]
    simp [Draft.shown, Draft.empty]
  · obtain ⟨role', parsed, text⟩ := reading_location.mp read
    simp [last, text, parsed, Role.name_injective.eq_iff]

private theorem follows_options (put : putAll .empty es = .ok d) (f : PrinterFunction) :
    Gives false (lastFor (.invert f) es) (d.optionsOf f).invert ∧
      Gives true (lastFor (.pullup f) es) (!(d.optionsOf f).suppressPullup) := by
  have standard : Draft.empty.optionsOf f = .standard := by simp [Draft.optionsOf, Draft.empty]
  constructor
  · rcases shown_last put (.invert f) with ⟨last, same⟩ | ⟨value, last, read⟩
    · rw [last]
      simp only [Draft.shown, standard, Option.some.injEq] at same
      exact truthText_injective same
    · rw [last]
      obtain ⟨b, truth, same⟩ := reading_invert.mp read
      rw [Gives, truthText_injective (Option.some.inj same), truth]
  · rcases shown_last put (.pullup f) with ⟨last, same⟩ | ⟨value, last, read⟩
    · rw [last]
      simp only [Draft.shown, standard, Option.some.injEq] at same
      exact truthText_injective same
    · rw [last]
      obtain ⟨b, truth, same⟩ := reading_pullup.mp read
      rw [Gives, truthText_injective (Option.some.inj same), truth]

/-- The document of a draft says what the last values for its targets say. -/
theorem follows_of_putAll (put : putAll .empty es = .ok d) : Follows (fun t => lastFor t es) d.toDocument where
  boards := follows_board put
  settings := follows_setting put
  texts _ free := follows_text put free
  increasing := toDocument_increasing d
  ports := follows_port put
  locations := follows_location put
  options f :=
    have given := follows_options put f
    ⟨d.optionsOf f, given.1, given.2, get?_marked d f⟩

end

/-! ## Lines that change places -/

/-- A line on which nothing is read: it is blank, a comment, or its key addresses nothing. -/
inductive Idle (l : String) : Prop where
  | blank (empty : Text.trim l = "")
  | comment (mark : (Text.trim l).toList.head? = some '#')
  | stray {key value : String} (parts : keyValue l = .ok (some (key, value))) (nothing : Target.ofKey? key = none)

/-- Whether a line addresses a target. -/
def addresses (t : Target) (l : String) : Bool := (addressed? l).any (·.1 = t)

/-- Ways to edit a file without touching what it says: idle lines come and go, and lines change places, but those for
one target stay in their order. -/
inductive Rearranges : List String → List String → Prop where
  | inserted {before after : List String} {l : String} (idle : Idle l) :
    Rearranges (before ++ after) (before ++ l :: after)
  | removed {before after : List String} {l : String} (idle : Idle l) :
    Rearranges (before ++ l :: after) (before ++ after)
  | reordered {ls ls' : List String} (moved : ls.Perm ls')
    (kept : ∀ t, ls.filter (addresses t) = ls'.filter (addresses t)) : Rearranges ls ls'

/-- The lines are read as a document. -/
def ReadAs (d : Document) (ls : List String) : Prop :=
  (∀ l ∈ ls, ∃ parts, keyValue l = .ok parts) ∧
    ∃ e, putAll .empty (ls.filterMap addressed?) = .ok e ∧ e.toDocument = d

theorem Idle.readable {l : String} (idle : Idle l) : (∃ parts, keyValue l = .ok parts) ∧ addressed? l = none := by
  have quiet (silent : keyValue l = .ok none) : (∃ parts, keyValue l = .ok parts) ∧ addressed? l = none :=
    ⟨⟨_, silent⟩, by simp only [addressed?, silent]⟩
  cases idle with
  | blank empty => exact quiet (by simp [keyValue, empty])
  | comment mark => exact quiet (by simp [keyValue, mark])
  | stray parts nothing => exact ⟨⟨_, parts⟩, by simp only [addressed?, parts, nothing, Option.map_none]⟩

/-- An idle line makes no difference wherever it stands. -/
theorem readAs_insert_iff {d : Document} {before after : List String} {l : String} (idle : Idle l) :
    ReadAs d (before ++ l :: after) ↔ ReadAs d (before ++ after) := by
  obtain ⟨readable, nothing⟩ := idle.readable
  simp [ReadAs, or_imp, forall_and, readable, nothing]

private theorem lastFor_eq_getLast? (t : Target) (es : List (Target × String)) :
    lastFor t es = (es.filter (·.1 = t)).getLast?.map (·.2) := by
  induction es with
  | nil => rfl
  | cons e es ih =>
    rw [lastFor, ih, List.filter_cons]
    split_ifs with here there there
    · cases later : (es.filter (·.1 = t)).getLast? <;> simp [List.getLast?_cons, later]
    · exact absurd (decide_eq_true here) there
    · exact absurd (of_decide_eq_true there) here
    · rw [Option.or_none]

private theorem filter_addressed (t : Target) (ls : List String) :
    (ls.filterMap addressed?).filter (·.1 = t) = (ls.filter (addresses t)).filterMap addressed? := by
  rw [List.filter_filterMap, List.filterMap_filter]
  refine List.filterMap_congr fun l _ => ?_
  rw [addresses]
  cases addressed? l <;> simp [Option.filter]

/-- Only the order of the lines for one target matters. -/
theorem readAs_of_reordered {d : Document} {ls ls' : List String} (moved : ls.Perm ls')
    (kept : ∀ t, ls.filter (addresses t) = ls'.filter (addresses t)) (read : ReadAs d ls) : ReadAs d ls' := by
  obtain ⟨readable, e, put, same⟩ := read
  have last (t : Target) : lastFor t (ls'.filterMap addressed?) = lastFor t (ls.filterMap addressed?) := by
    rw [lastFor_eq_getLast?, lastFor_eq_getLast?, filter_addressed, filter_addressed, kept t]
  have taken : ∀ p ∈ ls'.filterMap addressed?, ∃ text, reading p.1 p.2 = .ok text := fun p inside =>
    putAll_total_iff.mp ⟨e, put⟩ p ((moved.filterMap addressed?).mem_iff.mpr inside)
  obtain ⟨e', put'⟩ := (putAll_total_iff (d := .empty)).mpr taken
  refine ⟨fun l inside => readable l (moved.mem_iff.mpr inside), e', put', ?_⟩
  rw [← same]
  refine toDocument_congr fun t => ?_
  rcases shown_last put t with ⟨none, shown⟩ | ⟨value, some, shown⟩
  · rw [(putAll_shown put' t).2 ((last t).trans none), shown]
  · have shown' := (putAll_shown put' t).1 value ((last t).trans some)
    exact Except.ok.inj (shown'.symm.trans shown)

private theorem Rearranges.readAs {d : Document} {ls ls' : List String} (edited : Rearranges ls ls')
    (read : ReadAs d ls) :
    ReadAs d ls' := by
  cases edited with
  | inserted idle => exact (readAs_insert_iff idle).mpr read
  | removed idle => exact (readAs_insert_iff idle).mp read
  | reordered moved kept => exact readAs_of_reordered moved kept read

/-- What a file says of a target is what the last line for it says. So a file of which idle lines are inserted or
removed, or lines reordered with those for one target in their order, is read as the same document. -/
theorem read_last_line {text : String} {d : Document} (file : read text = .ok d) :
    Follows (lastValue? (Text.lines text)) d ∧
      ∀ text', Relation.ReflTransGen Rearranges (Text.lines text) (Text.lines text') → read text' = .ok d := by
  have readable : ReadAs d (Text.lines text) := read_ok_iff.mp file
  constructor
  · obtain ⟨_, e, put, rfl⟩ := readable
    exact follows_of_putAll put
  · intro text' edited
    refine read_ok_iff.mpr ?_
    generalize Text.lines text' = ls' at edited
    induction edited with
    | refl => exact readable
    | tail _ edit read => exact edit.readAs read

/-- A file in which two targets have two lines each, one of them under another name of its function, and one line is
for no target. -/
def scatteredFile : String :=
  "Fan.port=main:FAN0\nfan.pullup=yes\nfuture.key=1\nfan_part.pullup=no\nfan_part.port = tool:FAN1"

/-- What `scatteredFile` says. -/
def scatteredDocument : Document :=
  { Document.empty with
    records := [⟨.fan .partCooling, .primary, .toolboard, "FAN1"⟩]
    options := Table.empty.insert (.fan .partCooling) ⟨false, true⟩ }

/-- A file in which a setting is given twice. -/
theorem scatteredFile_last_line : read scatteredFile = .ok scatteredDocument ∧
    Follows (lastValue? (Text.lines scatteredFile)) scatteredDocument ∧
      read ("# first" ++ "\n" ++ scatteredFile) = .ok scatteredDocument := by
  have file : read scatteredFile = .ok scatteredDocument := by decide +kernel
  have lines : Text.lines ("# first" ++ "\n" ++ scatteredFile) = "# first" :: Text.lines scatteredFile := by
    rw [Text.lines_append, Text.lines_of_oneLine (by decide), List.singleton_append]
  have comment : Idle "# first" := .comment (by decide +kernel)
  have inserted : Rearranges ([] ++ Text.lines scatteredFile) ([] ++ "# first" :: Text.lines scatteredFile) :=
    .inserted comment
  rw [List.nil_append, List.nil_append, ← lines] at inserted
  obtain ⟨follows, same⟩ := read_last_line file
  exact ⟨file, follows, same _ (.single inserted)⟩

end PrinterWiring.SessionFile
