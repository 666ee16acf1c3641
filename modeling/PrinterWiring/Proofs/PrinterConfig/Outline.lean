import PrinterWiring.Catalog.Builtin
import PrinterWiring.Proofs.PrinterConfig.FreeText
import PrinterWiring.Proofs.PrinterConfig.Rows
import PrinterWiring.Web.Preview

/-!
# Outlines

The outline of a configuration is how many rows its files have and which of them are headers. Free texts are not part of
it as long as they hold no line feed. They are written as they are, though, and a free text that was not read from a
file may hold one: next to a preview that shows none of these, another one has the same outline exactly if it shows none
of these, either (`preview_outline_iff`).
-/

namespace PrinterWiring

open ConfigLine

/-- Whether a row is a header. -/
def isHeaderRow (row : String) : Bool := row.toList.head? = some '[' && row.toList.getLast? = some ']'

/-- How many rows a text has, and which of them are headers. -/
def outlineOf (text : String) : Nat × List String :=
  ((Text.lines text).length, (Text.lines text).filter isHeaderRow)

/-- The structure of a configuration: the names of its files with the outlines of their texts. -/
def Rendered.outline (r : Rendered) : List (String × Nat × List String) :=
  r.texts.map fun text => (text.1, outlineOf text.2)

/-- The text of a line without the line feed at its end. -/
def ConfigLine.body : ConfigLine → String
  | header name => "\n" ++ (header name).row
  | line => line.row

section
variable {line line' : ConfigLine} {lines lines' : List ConfigLine}

private theorem lines_configText_cons (line : ConfigLine) (lines : List ConfigLine) :
    Text.lines (configText (line :: lines)) = Text.lines line.body ++ Text.lines (configText lines) := by
  have split : configText (line :: lines) = line.body ++ "\n" ++ configText lines := by
    cases line <;> simp [configText, toText, body, row, ← String.toList_inj]
  rw [split, Text.lines_append]

/-- Lines that are the same without free texts are the same or have free texts. -/
theorem eq_or_entry_of_masked (same : line.masked = line'.masked) :
    line = line' ∨ ∃ key ∈ textKeys, ∃ v v', line = entry key v ∧ line' = entry key v' := by
  cases line with
  | comment text =>
    cases line' with
    | comment text' => exact .inl same
    | header name | entry key value => cases same
  | header name =>
    cases line' with
    | header name' => exact .inl same
    | comment text | entry key value => cases same
  | entry key value =>
    cases line' with
    | comment text | header name => cases same
    | entry key' value' =>
      simp only [masked, ConfigLine.entry.injEq] at same
      obtain ⟨rfl, values⟩ := same
      by_cases free : key ∈ textKeys
      · exact .inr ⟨key, free, value, value', rfl, rfl⟩
      · rw [if_neg free, if_neg free] at values
        exact .inl (values ▸ rfl)

/-- The row of an entry is one line if its value is. -/
theorem oneLine_body {key value : String} (free : key ∈ textKeys) :
    Text.OneLine (entry key value).body ↔ Text.OneLine value := by
  have solid : ∀ key ∈ textKeys, IsEntryKey key := by decide
  exact oneLine_entry (solid key free)

private theorem not_isHeaderRow {key value : String} (free : key ∈ textKeys) :
    isHeaderRow (entry key value).body = false := by
  simp only [textKeys, List.mem_cons, List.not_mem_nil, or_false] at free
  rcases free with rfl | rfl | rfl <;> simp [isHeaderRow, body, row]

/-- A free text that does not stay on its row makes the text of its line longer. -/
theorem length_body (same : line.masked = line'.masked) (whole : line'.Whole) :
    (Text.lines line'.body).length ≤ (Text.lines line.body).length ∧
      ((Text.lines line.body).length ≤ (Text.lines line'.body).length → line.Whole) := by
  rcases eq_or_entry_of_masked same with rfl | ⟨key, free, v, v', rfl, rfl⟩
  · exact ⟨le_rfl, fun _ => whole⟩
  · rw [Text.lines_of_oneLine ((oneLine_body free).mpr (whole free)), List.length_singleton]
    exact ⟨Text.length_lines_pos _, fun short _ => (oneLine_body free).mp (Text.oneLine_of_length_lines short)⟩

private theorem headers_body (same : line.masked = line'.masked) (whole : line.Whole) (whole' : line'.Whole) :
    (Text.lines line.body).length = (Text.lines line'.body).length ∧
      (Text.lines line.body).filter isHeaderRow = (Text.lines line'.body).filter isHeaderRow := by
  rcases eq_or_entry_of_masked same with rfl | ⟨key, free, v, v', rfl, rfl⟩
  · exact ⟨rfl, rfl⟩
  · rw [Text.lines_of_oneLine ((oneLine_body free).mpr (whole free)),
      Text.lines_of_oneLine ((oneLine_body free).mpr (whole' free))]
    simp [not_isHeaderRow free]

/-- Free texts that are on one line make a file shortest. -/
theorem length_configText (same : lines.map masked = lines'.map masked) (whole : ∀ line ∈ lines', line.Whole) :
    (Text.lines (configText lines')).length ≤ (Text.lines (configText lines)).length ∧
      ((Text.lines (configText lines)).length ≤ (Text.lines (configText lines')).length →
        ∀ line ∈ lines, line.Whole) := by
  induction lines generalizing lines' with
  | nil =>
    cases List.map_eq_nil_iff.mp same.symm
    exact ⟨le_rfl, fun _ => List.forall_mem_nil _⟩
  | cons line lines ih =>
    obtain ⟨line', rest', rfl, first, rest⟩ := List.map_eq_cons_iff.mp same.symm
    obtain ⟨own', whole'⟩ := List.forall_mem_cons.mp whole
    obtain ⟨here, own⟩ := length_body first.symm own'
    obtain ⟨later, others⟩ := ih rest.symm whole'
    simp only [lines_configText_cons, List.length_append]
    refine ⟨by omega, fun short => List.forall_mem_cons.mpr ⟨own (by omega), others (by omega)⟩⟩

private theorem headers_configText (same : lines.map masked = lines'.map masked) (whole : ∀ line ∈ lines, line.Whole)
    (whole' : ∀ line ∈ lines', line.Whole) : outlineOf (configText lines) = outlineOf (configText lines') := by
  induction lines generalizing lines' with
  | nil =>
    cases List.map_eq_nil_iff.mp same.symm
    rfl
  | cons line lines ih =>
    obtain ⟨line', rest', rfl, first, rest⟩ := List.map_eq_cons_iff.mp same.symm
    obtain ⟨own, others⟩ := List.forall_mem_cons.mp whole
    obtain ⟨own', others'⟩ := List.forall_mem_cons.mp whole'
    obtain ⟨count, headers⟩ := headers_body first.symm own own'
    obtain ⟨counts, rows⟩ := Prod.mk.inj (ih rest.symm others others')
    simp only [outlineOf, lines_configText_cons, List.length_append, List.filter_append, count, counts, headers, rows]

/-- A file has the outline of one without line feeds in its free texts just if it has none either. -/
theorem outlineOf_iff (same : lines.map masked = lines'.map masked) (whole : ∀ line ∈ lines', line.Whole) :
    outlineOf (configText lines) = outlineOf (configText lines') ↔ ∀ line ∈ lines, line.Whole := by
  constructor
  · intro outlines
    exact (length_configText same whole).2 (congrArg Prod.fst outlines).le
  · intro own
    exact headers_configText same own whole

/-- Next to a configuration whose free texts stay on their rows, one that is the same without free texts has the same
outline exactly if its free texts stay on their rows, too. -/
theorem Rendered.outline_iff {r r' : Rendered} (same : r.masked = r'.masked) (whole : r'.Whole) :
    r.outline = r'.outline ↔ r.Whole := by
  have files : r.files.map (fun file => (file.1, file.2.map ConfigLine.masked)) =
      r'.files.map fun file => (file.1, file.2.map ConfigLine.masked) := congrArg Rendered.files same
  simp only [Rendered.outline, Rendered.texts, List.map_map, Function.comp_def, Rendered.Whole] at whole ⊢
  generalize r.files = given at files ⊢
  generalize r'.files = given' at files whole ⊢
  induction given generalizing given' with
  | nil =>
    cases List.map_eq_nil_iff.mp files.symm
    simp
  | cons file given ih =>
    obtain ⟨file', rest', rfl, first, rest⟩ := List.map_eq_cons_iff.mp files.symm
    obtain ⟨own, others⟩ := List.forall_mem_cons.mp whole
    obtain ⟨name, lines⟩ := Prod.mk.inj first
    have here : (file.1.name, outlineOf (configText file.2)) = (file'.1.name, outlineOf (configText file'.2)) ↔
        ∀ line ∈ file.2, line.Whole := by
      rw [Prod.mk.injEq, outlineOf_iff lines.symm own, name]
      exact and_iff_right rfl
    rw [List.map_cons, List.map_cons, List.cons.injEq, List.forall_mem_cons]
    exact and_congr here (ih rest' rest.symm others)

end

namespace Web

/-- A preview without its free texts. -/
def Preview.masked (p : Preview) : Preview := { p with rendered := p.rendered.masked }

/-- Without free texts, a preview is that of the document without free texts. -/
theorem preview_masked (c : Catalog) (q : PreviewRequest) :
    (preview c { q with session := q.session.masked }).map Preview.masked = (preview c q).map Preview.masked := by
  have outer (x : Except WiringError Rendered) (issues : List RestoreIssue) :
      (x.map fun r => Preview.mk r issues).map Preview.masked =
        (x.map Rendered.masked).map fun r => Preview.mk r issues := by
    cases x <;> rfl
  simp only [preview, Session.restore_masked, outer, Session.render_masked]

/-- Previews of documents that differ in free texts alone differ in free texts alone. -/
theorem masked_of_preview (c : Catalog) (q q' : PreviewRequest) {p p' : Preview}
    (same : q.session.masked = q'.session.masked) (mode : q.mode = q'.mode) (done : preview c q = .ok p)
    (done' : preview c q' = .ok p') : p.masked = p'.masked := by
  have both : preview c { q with session := q.session.masked } =
      preview c { q' with session := q'.session.masked } := by
    simp only [preview, same, mode]
  have outcomes := preview_masked c q
  rw [both, preview_masked, done, done'] at outcomes
  exact (Except.ok.inj outcomes).symm

private theorem names_of_masked {r r' : Rendered} (same : r.masked = r'.masked) :
    r.texts.map (·.1) = r'.texts.map (·.1) := by
  have names (r : Rendered) : r.texts.map (·.1) = r.masked.files.map (·.1.name) := by
    simp [Rendered.texts, Rendered.masked, Function.comp_def]
  rw [names, names, same]

/-- A preview is whole if the free texts that it shows are on one line. -/
theorem whole_preview {c : Catalog} {q : PreviewRequest} {p : Preview} (done : preview c q = .ok p) :
    p.rendered.Whole ↔ ∀ text ∈ (Session.restore c q.session).1.shownTexts, Text.OneLine text := by
  cases rendered : (Session.restore c q.session).1.render q.mode with
  | error e =>
    simp only [preview, rendered] at done
    cases done
  | ok r =>
    simp only [preview, rendered] at done
    cases done
    exact Session.whole_render rendered

/-- The files of previews of documents that differ in free texts alone have the same names. Next to a preview that shows
no line feed in a free text, the other has the same outline exactly if it shows none, either. -/
theorem preview_outline_iff (c : Catalog) (q q' : PreviewRequest) {p p' : Preview}
    (same : q.session.masked = q'.session.masked) (mode : q.mode = q'.mode) (done : preview c q = .ok p)
    (done' : preview c q' = .ok p') :
    p.rendered.texts.map (·.1) = p'.rendered.texts.map (·.1) ∧
      ((∀ text ∈ (Session.restore c q'.session).1.shownTexts, Text.OneLine text) →
        (p.rendered.outline = p'.rendered.outline ↔
          ∀ text ∈ (Session.restore c q.session).1.shownTexts, Text.OneLine text)) := by
  have masked : p.rendered.masked = p'.rendered.masked :=
    congrArg Preview.rendered (masked_of_preview c q q' same mode done done')
  refine ⟨names_of_masked masked, fun clean => ?_⟩
  rw [Rendered.outline_iff masked ((whole_preview done').mpr clean), whole_preview done]

/-- A request for a draft of a session with nothing but a serial path. -/
def serialRequest (path : String) : PreviewRequest :=
  ⟨0, .placeholder, { Document.empty with settings := { Settings.standard with mcuSerial := some path } }⟩

/-- A draft is always rendered. -/
theorem exists_draft (c : Catalog) (path : String) : ∃ p, preview c (serialRequest path) = .ok p := ⟨_, rfl⟩

private theorem masked_serialRequest (path path' : String) :
    (serialRequest path).session.masked = (serialRequest path').session.masked := rfl

/-- Two requests that differ in a path. -/
theorem serialRequest_outline : ∃ p p', preview Catalog.builtin (serialRequest "/dev/ttyACM0") = .ok p ∧
    preview Catalog.builtin (serialRequest "/dev/ttyUSB0") = .ok p' ∧
      p.rendered.texts.map (·.1) = p'.rendered.texts.map (·.1) ∧ p.rendered.outline = p'.rendered.outline := by
  obtain ⟨p, done⟩ := exists_draft Catalog.builtin "/dev/ttyACM0"
  obtain ⟨p', done'⟩ := exists_draft Catalog.builtin "/dev/ttyUSB0"
  have same := masked_serialRequest "/dev/ttyACM0" "/dev/ttyUSB0"
  obtain ⟨names, outlines⟩ := preview_outline_iff _ _ _ same rfl done done'
  exact ⟨p, p', done, done', names, (outlines (by decide +kernel)).mpr (by decide +kernel)⟩

/-- A serial path with a line feed changes the outline. -/
theorem serialRequest_other_outline : ¬ ∀ (q q' : PreviewRequest) (p p' : Preview),
    q.session.masked = q'.session.masked → q.mode = q'.mode → preview Catalog.builtin q = .ok p →
      preview Catalog.builtin q' = .ok p' → p.rendered.outline = p'.rendered.outline := by
  intro each
  obtain ⟨p, done⟩ := exists_draft Catalog.builtin "a\n[evil]"
  obtain ⟨p', done'⟩ := exists_draft Catalog.builtin "a"
  have same := masked_serialRequest "a\n[evil]" "a"
  have masked : p.rendered.masked = p'.rendered.masked :=
    congrArg Preview.rendered (masked_of_preview _ _ _ same rfl done done')
  have whole : p'.rendered.Whole := (whole_preview done').mpr (by decide +kernel)
  have other : p.rendered.Whole := (Rendered.outline_iff masked whole).mp (each _ _ p p' same rfl done done')
  exact absurd ((whole_preview done).mp other) (by decide +kernel)

end Web

end PrinterWiring
