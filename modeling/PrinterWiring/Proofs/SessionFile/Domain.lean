import PrinterWiring.Proofs.SessionFile.Canonical

/-!
# What session files can carry

A document that is read back as it was has been read from some file, and so it is in order and holds no line feed. Its
own file is then known value by value, and each value has to be kept by its line. So the documents that session files
carry are the canonical ones and no others (`read_write_self_iff`).
-/

namespace PrinterWiring.SessionFile

/-! ## Drafts and their documents -/

private theorem optionsOf_ofDocument (e : Draft) (f : PrinterFunction) :
    (Draft.ofDocument e.toDocument).optionsOf f = e.optionsOf f := by
  have held : (Draft.ofDocument e.toDocument).options.get? f =
      if (e.optionsOf f).isStandard then none else some (e.optionsOf f) := get?_marked e f
  rw [Draft.optionsOf, held]
  split_ifs with standard
  · exact (beq_iff_eq.mp standard).symm
  · rfl

private theorem get?_ports_toDocument (e : Draft) (k : SlotKey) :
    (Draft.ofDocument e.toDocument).ports.get? k = e.ports.get? k := by
  obtain ⟨f, slot⟩ := k
  apply Option.ext
  rintro ⟨role, port⟩
  rw [get?_ports_ofDocument (toDocument_increasing e), mem_toDocument_records, PortRecord.key]

/-- Nothing that a draft shows is lost in its document. -/
theorem shown_toDocument (e : Draft) (t : Target) : (Draft.ofDocument e.toDocument).shown t = e.shown t := by
  cases t with
  | board role => simp only [Draft.shown, Draft.ofDocument, Draft.toDocument]
  | setting k => simp only [Draft.shown, Draft.ofDocument, Draft.toDocument]
  | port k => rw [Draft.shown, Draft.shown, get?_ports_toDocument]
  | location f => simp only [Draft.shown, Draft.ofDocument, Draft.toDocument]
  | invert f => rw [Draft.shown, Draft.shown, optionsOf_ofDocument]
  | pullup f => rw [Draft.shown, Draft.shown, optionsOf_ofDocument]

/-! ## Documents that were read -/

/-- What the document of a file states, some draft that was read from the file shows. -/
theorem stated_of_read {s : String} {d : Document} (file : read s = .ok d) :
    ∃ e, putAll .empty ((Text.lines s).filterMap addressed?) = .ok e ∧ e.toDocument = d ∧
      ∀ t v, (Draft.ofDocument d).stated t = some v → e.shown t = some v := by
  obtain ⟨_, e, put, rfl⟩ := read_ok_iff.mp file
  refine ⟨e, put, rfl, fun t v stated => ?_⟩
  rw [← shown_toDocument, shown_of_stated stated]

/-- A document that is read is in order. -/
theorem ordered_of_read {s : String} {d : Document} (file : read s = .ok d) : Ordered d := by
  obtain ⟨_, e, _, rfl⟩ := read_ok_iff.mp file
  exact toDocument_ordered e

/-- What a document that is read states is on one line each. -/
theorem oneLine_written_of_read {s : String} {d : Document} (file : read s = .ok d) :
    ∀ p ∈ written d, Text.OneLine p.2 := by
  obtain ⟨e, put, _, shown⟩ := stated_of_read file
  intro p inside
  have stated := (mem_written_iff (ordered_of_read file).records).mp inside
  exact oneLine_of_read put (shown p.1 p.2 stated)

/-- If a document is read back as it was, each of its values is kept by its line. -/
theorem canonical_of_read_write {d : Document} (carried : read (write d) = .ok d) : Canonical d := by
  have ordered := ordered_of_read carried
  have whole := oneLine_written_of_read carried
  obtain ⟨e, put, same⟩ := (read_write_iff whole).mp carried
  refine canonical_of_kept ordered fun t v stated => ⟨?_, ?_⟩
  · exact whole (t, v) ((mem_written_iff ordered.records).mpr stated)
  · have read := (shown_of_putAll ordered.records put t).1 v stated
    rwa [← shown_toDocument, same, shown_of_stated stated] at read

/-- A document is read back from the file that is written of it exactly if it is canonical. -/
theorem read_write_self_iff (d : Document) : read (write d) = .ok d ↔ Canonical d := by
  constructor
  · intro carried
    exact canonical_of_read_write carried
  · intro canonical
    exact canonical.read_write

end PrinterWiring.SessionFile
