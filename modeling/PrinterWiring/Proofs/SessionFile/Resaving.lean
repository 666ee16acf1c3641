import PrinterWiring.Proofs.SessionFile.Domain

/-!
# Saving a file that was read

A file that was read is saved as a file that can be read again, with the same meaning in all but two kinds of values:
board ids and free texts. A reader takes one pair of quotes off them, and of a board id not the blanks behind the
quotes; the writer puts nothing back. So the file keeps its meaning exactly if these values are `Bare`
(`resaved_iff`).
-/

namespace PrinterWiring.SessionFile

/-! ## What is read is kept -/

/-- The targets that hold texts of any form. -/
def Target.IsText : Target → Prop
  | .board _ => True
  | .setting k => k ∈ freeTexts
  | _ => False

private theorem kept_of_set {k : SettingKey} {value v : String} {s : Settings} (bound : k ∉ freeTexts)
    (set : Settings.standard.set k value = .ok s) (shown : s.get? k = some v) : Kept (.setting k) v := by
  unfold Settings.set at set
  cases k with
  | extruderSensor | bedSensor | mcuSerial | toolboardUuid => exact absurd (by decide) bound
  | kinematics =>
    obtain ⟨a, _, rfl⟩ := Option.map_eq_some_iff.mp shown
    exact kept_kinematics a
  | driver =>
    obtain ⟨a, _, rfl⟩ := Option.map_eq_some_iff.mp shown
    exact kept_driver a
  | probeKind =>
    obtain ⟨a, _, rfl⟩ := Option.map_eq_some_iff.mp shown
    exact kept_probeKind a
  | zStop =>
    cases shown
    exact kept_zStop _
  | bedSizeX | bedSizeY | zHeight | maxVelocity | maxAccel | runCurrent =>
    simp only [Settings.setTrimmed, map_eq_ok] at set
    obtain ⟨n, read, rfl⟩ := set
    cases shown
    exact (kept_measure_iff (by decide)).mpr (Settings.pos_of_readPositive read)
  | microsteps =>
    simp only [Settings.setTrimmed, map_eq_ok] at set
    obtain ⟨n, read, rfl⟩ := set
    cases shown
    exact kept_microsteps_iff.mpr (Settings.mem_stepCounts_of_readSteps read)

private theorem plain_of_parse {value : String} {a : Address} (line : Text.OneLine value)
    (read : Address.parse value = .ok a) : Plain a.port := by
  have whole := oneLine_of_parse line read
  rw [Address.toText, Text.oneLine_append] at whole
  unfold Address.parse at read
  split at read
  · cases read
  · next role port cut =>
    split_ifs at read with none
    obtain ⟨r, _, rfl⟩ := map_eq_ok.mp read
    refine ⟨?_, Text.trim_trim port, whole.2⟩
    intro gone
    exact none (String.isEmpty_iff.mpr gone)

/-- What is read from a value on one line is kept by its own line, unless it is a text of any form. -/
theorem kept_of_reading {t : Target} (bound : ¬ t.IsText) {value v : String} (line : Text.OneLine value)
    (read : reading t value = .ok (some v)) : Kept t v := by
  cases t with
  | board role => exact absurd trivial bound
  | setting k =>
    obtain ⟨s, set, shown⟩ := reading_setting_ok.mp read
    exact kept_of_set bound set shown
  | port k =>
    rcases reading_address.mp read with ⟨_, none⟩ | ⟨_, a, parsed, same⟩
    · cases none
    · cases same
      exact kept_port_iff.mpr (plain_of_parse line parsed)
  | location f =>
    obtain ⟨role, _, same⟩ := reading_location.mp read
    cases same
    exact kept_location f role
  | invert f =>
    obtain ⟨b, _, same⟩ := reading_invert.mp read
    cases same
    exact kept_invert f b
  | pullup f =>
    obtain ⟨b, _, same⟩ := reading_pullup.mp read
    cases same
    exact kept_pullup f b

private theorem kept_of_empty {t : Target} {v : String} (shown : Draft.empty.shown t = some v) : Kept t v := by
  cases t with
  | board role => simp [Draft.shown, Draft.empty] at shown
  | setting k =>
    cases k with
    | kinematics | bedSizeX | bedSizeY | zHeight | driver | probeKind => cases shown
    | extruderSensor | bedSensor | mcuSerial | toolboardUuid => cases shown
    | maxVelocity | maxAccel | runCurrent =>
      cases shown
      exact (kept_measure_iff (by decide)).mpr (by decide)
    | microsteps =>
      cases shown
      exact kept_microsteps_iff.mpr (by decide)
    | zStop =>
      cases shown
      exact kept_zStop _
  | port k => simp [Draft.shown, Draft.empty] at shown
  | location f => simp [Draft.shown, Draft.empty] at shown
  | invert f =>
    cases shown
    exact kept_invert f _
  | pullup f =>
    cases shown
    exact kept_pullup f _

/-! ## Texts of any form -/

/-- From every value a text is read; it is not empty, and a setting is trimmed. -/
theorem reading_text {t : Target} (free : t.IsText) (value : String) :
    ∃ text, reading t value = .ok text ∧
      ∀ v, text = some v → v ≠ "" ∧ ((∃ k, t = .setting k) → Text.trim v = v) := by
  cases t with
  | board role =>
    refine ⟨Text.nonEmpty? value, reading_board role value, ?_⟩
    intro v same
    refine ⟨(Text.nonEmpty?_eq_some.mp same).2, ?_⟩
    rintro ⟨k, other⟩
    cases other
  | setting k =>
    refine ⟨Text.nonEmpty? (Text.trim value), ?_, ?_⟩
    · rw [reading_setting_ok, set_freeText free]
    · intro v same
      obtain ⟨trimmed, filled⟩ := Text.nonEmpty?_eq_some.mp same
      refine ⟨filled, fun _ => ?_⟩
      rw [← trimmed, Text.trim_trim]
  | port k => exact free.elim
  | location f => exact free.elim
  | invert f => exact free.elim
  | pullup f => exact free.elim

/-- Board ids and free texts that are read as they are: board ids without blanks around them, and both without
quotes. -/
structure Bare (d : Document) : Prop where
  boards : ∀ role id, d.boards.get? role = some id → Text.trim id = id ∧ ¬ Quoted id
  texts : ∀ v, d.settings.extruderSensor = some v ∨ d.settings.bedSensor = some v ∨ d.settings.mcuSerial = some v ∨
    d.settings.toolboardUuid = some v → ¬ Quoted v

/-- What is canonical stands bare. -/
theorem Canonical.bare {d : Document} (canonical : Canonical d) : Bare d where
  boards role id given := ⟨(canonical.boards role id given).1.trimmed, (canonical.boards role id given).2⟩
  texts v given := (canonical.settings.texts v given).2

private theorem not_quoted_of_bare {d : Document} (bare : Bare d) {k : SettingKey} (free : k ∈ freeTexts) {v : String}
    (held : d.settings.get? k = some v) : ¬ Quoted v := by
  simp only [freeTexts, List.mem_cons, List.not_mem_nil, or_false] at free
  rcases free with rfl | rfl | rfl | rfl
  · exact bare.texts v (.inl held)
  · exact bare.texts v (.inr (.inl held))
  · exact bare.texts v (.inr (.inr (.inl held)))
  · exact bare.texts v (.inr (.inr (.inr held)))

/-! ## Files that were read -/

/-- A text that was read from a file is kept by its own line, or it is one of any form, and not empty. -/
theorem shown_of_read {s : String} {e : Draft} (put : putAll .empty ((Text.lines s).filterMap addressed?) = .ok e)
    {t : Target} {v : String} (shown : e.shown t = some v) :
    Kept t v ∨ (t.IsText ∧ v ≠ "" ∧ ((∃ k, t = .setting k) → Text.trim v = v)) := by
  obtain ⟨decided, kept⟩ := putAll_shown put t
  cases last : lastFor t ((Text.lines s).filterMap addressed?) with
  | none => exact .inl (kept_of_empty ((kept last).symm.trans shown))
  | some value =>
    have read := decided value last
    by_cases free : t.IsText
    · obtain ⟨text, read', form⟩ := reading_text free value
      rw [read, Except.ok.injEq] at read'
      exact .inr ⟨free, form v (read'.symm.trans shown)⟩
    · obtain ⟨l, inside, here⟩ := List.mem_filterMap.mp (mem_of_lastFor last)
      have line := (Text.oneLine_of_mem_lines inside).within (value_within_of_addressed? here)
      exact .inl (kept_of_reading free line (shown ▸ read))

/-- What was read and stands bare is canonical. -/
theorem canonical_of_bare {s : String} {d : Document} (file : read s = .ok d) (bare : Bare d) : Canonical d := by
  obtain ⟨e, put, same, shown⟩ := stated_of_read file
  refine canonical_of_kept (ordered_of_read file) fun t v stated => ?_
  rcases shown_of_read put (shown t v stated) with kept | ⟨free, filled, trimmed⟩
  · exact kept
  · have line : Text.OneLine v := oneLine_of_read put (shown t v stated)
    cases t with
    | board role =>
      obtain ⟨solid, plain⟩ := bare.boards role v stated
      exact kept_board_iff.mpr ⟨⟨filled, solid, line⟩, plain⟩
    | setting k =>
      exact (kept_freeText_iff free).mpr ⟨⟨filled, trimmed ⟨k, rfl⟩, line⟩, not_quoted_of_bare bare free stated⟩
    | port k => exact free.elim
    | location f => exact free.elim
    | invert f => exact free.elim
    | pullup f => exact free.elim

/-- The file that is written of what was read can be read. -/
theorem read_write_total {s : String} {d : Document} (file : read s = .ok d) : ∃ d', read (write d) = .ok d' := by
  have ordered := ordered_of_read file
  obtain ⟨e, put, _, shown⟩ := stated_of_read file
  have each : ∀ p ∈ (written d).map fun p => (p.1, stripped p.2), ∃ text, reading p.1 p.2 = .ok text := by
    simp only [List.forall_mem_map]
    intro p inside
    have stated := (mem_written_iff ordered.records).mp inside
    rcases shown_of_read put (shown p.1 p.2 stated) with kept | ⟨free, _⟩
    · exact ⟨_, kept.2⟩
    · obtain ⟨text, read, _⟩ := reading_text free (stripped p.2)
      exact ⟨text, read⟩
  obtain ⟨e', again⟩ := (putAll_total_iff (d := .empty)).mpr each
  exact ⟨_, (read_write_iff (oneLine_written_of_read file)).mpr ⟨e', again, rfl⟩⟩

/-- What was read from a file can be saved and read again, and it is the same again exactly if its board ids and its
free texts are bare. -/
theorem resaved_iff {s : String} {d : Document} (file : read s = .ok d) :
    (∃ d', read (write d) = .ok d') ∧ (read (write d) = .ok d ↔ Bare d) := by
  refine ⟨read_write_total file, ?_, ?_⟩
  · intro same
    exact (canonical_of_read_write same).bare
  · intro bare
    exact (canonical_of_bare file bare).read_write

/-- A file with blanks, quotes, other names and a target that is set twice. -/
def looseFile : String :=
  "# by hand\n board.mainboard = \"btt-octopus-v1.1\"\nFan.port=main: FAN0\n"
    ++ "mcu.serial=none\nmcu.serial = \" /dev/ttyACM0 \"\n"

/-- What `looseFile` says. -/
def looseDocument : Document :=
  { Document.empty with
    boards := Table.empty.insert .mainboard "btt-octopus-v1.1"
    records := [⟨.fan .partCooling, .primary, .mainboard, "FAN0"⟩]
    settings := { Settings.standard with mcuSerial := some "/dev/ttyACM0" } }

/-- A file with a quoted text that stands bare. -/
theorem looseFile_resaved : read looseFile = .ok looseDocument ∧ (∃ d', read (write looseDocument) = .ok d') ∧
    (read (write looseDocument) = .ok looseDocument ↔ Bare looseDocument) := by
  have file : read looseFile = .ok looseDocument := by decide +kernel
  exact ⟨file, resaved_iff file⟩

/-- A serial path in two pairs of quotes. -/
def nestedQuotes : String := "mcu.serial=\"\"/dev/ttyACM0\"\"\n"

/-- What is left of a text in two pairs of quotes is in quotes, and is saved as if these were not meant. -/
theorem nestedQuotes_not_resaved : ¬ ∀ d, read nestedQuotes = .ok d → read (write d) = .ok d := by
  intro resaved
  have file : read nestedQuotes =
      .ok { Document.empty with settings := { Settings.standard with mcuSerial := some "\"/dev/ttyACM0\"" } } := by
    decide +kernel
  have canonical := canonical_of_read_write (resaved _ file)
  refine canonical.bare.texts "\"/dev/ttyACM0\"" (.inr (.inr (.inl rfl))) ?_
  decide +kernel

end PrinterWiring.SessionFile
