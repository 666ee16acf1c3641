import PrinterWiring.Proofs.Session.Replay
import PrinterWiring.Proofs.SessionFile.Canonical

/-!
# Saving a session and opening it again

A session that is written to a file, read back and restored over the same catalog is the same again, with nothing left
out, exactly if it is paired and its document is canonical (`reached_survives_iff`). Texts are what can get lost, since
the writer quotes nothing while the reader takes blanks and quotes off: `quotedSerial` is one.
-/

namespace PrinterWiring

namespace Session

open SessionFile

/-- The file written of a session is read and restored over a catalog as the session, and nothing is left out. -/
def Survives (c : Catalog) (s : Session) : Prop := ∃ d, read (write s.toDocument) = .ok d ∧ restore c d = (s, [])

variable {c : Catalog} {s : Session}

theorem toDocument_ordered (marked : s.Marked) : Ordered s.toDocument where
  records := by
    have keys : (s.toDocument.records.map PortRecord.key).Pairwise fun a b =>
        Enumerated.position a < Enumerated.position b := by
      rw [toDocument_keys]
      exact Enumerated.pairwise_all.filter _
    rwa [List.pairwise_map] at keys
  options f o held := marked f o (options_toDocument marked ▸ held)

/-- A sound session without stranded slots survives if its document is canonical. -/
theorem survives_of_canonical (sound : s.Sound c) (paired : s.Paired) (canonical : Canonical s.toDocument) :
    s.Survives c :=
  ⟨s.toDocument, canonical.read_write, restore_toDocument sound paired⟩

/-! ## Sessions that were read -/

/-- The port that the document of a session has for a slot. -/
private theorem port?_of_ofDocument (ordered : Ordered s.toDocument) {k : SlotKey} {a : Address}
    (held : (Draft.ofDocument s.toDocument).ports.get? k = some a) : s.port? k = some a :=
  mem_toDocument_records.mp ((get?_ports_ofDocument ordered.records).mp held)

theorem setting_drawn {e : Draft} (drawn : s.Drawn e.toDocument) {k : SettingKey} {v : String}
    (held : s.settings.get? k = some v) : e.shown (.setting k) = some v := by
  have same : s.settings = e.settings := drawn.settings
  rw [Draft.shown, ← same, held]

/-- A session that is drawn from what was read has ports as they were read, up to letter case. -/
theorem port_drawn {e : Draft} (drawn : s.Drawn e.toDocument) {k : SlotKey} {a : Address}
    (held : s.port? k = some a) : ∃ port, e.ports.get? k = some ⟨a.role, port⟩ ∧ Text.SameLetters a.port port := by
  obtain ⟨r, given, rfl, role, letters⟩ := drawn.ports k a held
  exact ⟨r.port, role ▸ SessionFile.mem_toDocument_records.mp given, letters⟩

/-- No line feed gets into a session that is drawn from what was read. -/
private theorem oneLine_stated {text : String} {e : Draft}
    (put : putAll .empty ((Text.lines text).filterMap addressed?) = .ok e) (drawn : s.Drawn e.toDocument)
    (ordered : Ordered s.toDocument) {t : Target} {v : String}
    (stated : (Draft.ofDocument s.toDocument).stated t = some v) : Text.OneLine v := by
  rcases stated_cases stated with ⟨role, rfl⟩ | ⟨k, rfl⟩ | ⟨k, rfl⟩ | kept
  · exact oneLine_of_read (t := .board role) put (drawn.boards role v stated)
  · exact oneLine_of_read put (setting_drawn drawn stated)
  · simp only [Draft.stated, Draft.shown, Option.map_eq_some_iff] at stated
    obtain ⟨a, held, rfl⟩ := stated
    obtain ⟨port, given, letters⟩ := port_drawn drawn (port?_of_ofDocument ordered held)
    have whole : Text.OneLine (⟨a.role, port⟩ : Address).toText :=
      oneLine_of_read (t := .port k) put (by simp only [Draft.shown, given, Option.map_some])
    rw [Address.toText, Text.oneLine_append] at whole ⊢
    exact ⟨whole.1, letters.oneLine whole.2⟩
  · exact kept.1

/-- If a session is drawn from what is read of its own texts, each of them is read as it is. -/
private theorem kept_of_drawn {e : Draft} (drawn : s.Drawn e.toDocument) (ordered : Ordered s.toDocument) {t : Target}
    {v : String} (stated : (Draft.ofDocument s.toDocument).stated t = some v) (whole : Text.OneLine v)
    (read : reading t (stripped v) = .ok (e.shown t)) : Kept t v := by
  rcases stated_cases stated with ⟨role, rfl⟩ | ⟨k, rfl⟩ | ⟨k, rfl⟩ | kept
  · have shown : e.shown (.board role) = some v := drawn.boards role v stated
    exact ⟨whole, shown ▸ read⟩
  · have shown : e.shown (.setting k) = some v := setting_drawn drawn stated
    exact ⟨whole, shown ▸ read⟩
  · simp only [Draft.stated, Draft.shown, Option.map_eq_some_iff] at stated
    obtain ⟨a, held, rfl⟩ := stated
    obtain ⟨port, given, letters⟩ := port_drawn drawn (port?_of_ofDocument ordered held)
    obtain ⟨_, same⟩ := reading_port_ok.mp read
    simp only [Draft.shown, given, Option.map_some, Option.some.injEq] at same
    have taken : port = Text.trim a.port := congrArg Address.port (toText_injective same)
    have trimmed : Text.trim a.port = a.port := letters.trim_eq (by rw [taken, Text.trim_trim])
    refine ⟨whole, reading_port_ok.mpr ⟨(reading_port_ok.mp read).1, ?_⟩⟩
    rw [trimmed]
  · exact kept

/-- What survives is paired, and its document is canonical. -/
theorem canonical_of_survives (marked : s.Marked) (survives : s.Survives c) : s.Paired ∧ Canonical s.toDocument := by
  obtain ⟨d, readBack, restored⟩ := survives
  have paired : s.Paired := by
    have kept := restore_paired c d
    rwa [restored] at kept
  have drawn : s.Drawn d := by
    have placed := Restoration.placed_drawn c d
    rw [Restoration.restore_eq] at restored
    rwa [(Prod.mk.inj restored).1] at placed
  have ordered := toDocument_ordered marked
  obtain ⟨_, first, put, rfl⟩ := read_ok_iff.mp readBack
  have whole : ∀ p ∈ written s.toDocument, Text.OneLine p.2 := fun p inside =>
    oneLine_stated put drawn ordered ((mem_written_iff ordered.records).mp inside)
  -- The same file, now known to be read value by value.
  obtain ⟨e, values, same⟩ := (read_write_iff whole).mp readBack
  rw [← same] at drawn
  refine ⟨paired, canonical_of_kept ordered fun t v stated => ?_⟩
  exact kept_of_drawn drawn ordered stated (whole (t, v) ((mem_written_iff ordered.records).mpr stated))
    ((shown_of_putAll ordered.records values t).1 v stated)

/-- A reachable session is the same again after it was saved and opened, with nothing left out, exactly if each of its
secondary ports has a primary one and its document is canonical. -/
theorem reached_survives_iff (c : Catalog) (ops : List Operation) :
    (reached c ops).Survives c ↔ (reached c ops).Paired ∧ Canonical (reached c ops).toDocument := by
  have sound : (reached c ops).Sound c := (invariant_sound c).reached ops
  exact ⟨canonical_of_survives sound.marked, fun ⟨paired, canonical⟩ => survives_of_canonical sound paired canonical⟩

/-- A serial path in quotes. -/
def quotedSerial : List Operation := [.set "mcu.serial" "\"/dev/ttyACM0\""]

/-- A serial number in quotes loses them. -/
theorem quotedSerial_not_survives : ¬ (reached .builtin quotedSerial).Survives .builtin := by
  intro survives
  have marked : (reached .builtin quotedSerial).Marked := ((invariant_sound _).reached quotedSerial).marked
  have given : (reached .builtin quotedSerial).toDocument.settings.mcuSerial = some "\"/dev/ttyACM0\"" := by
    decide +kernel
  have canonical := (canonical_of_survives marked survives).2
  refine (canonical.settings.texts _ (.inr (.inr (.inl given)))).2 ?_
  decide +kernel

end Session

end PrinterWiring
