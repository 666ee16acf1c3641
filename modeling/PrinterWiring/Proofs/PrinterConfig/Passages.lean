import PrinterWiring.Proofs.PrinterConfig.WellFormed

/-!
# Passages

The passage of a section is all that stands below its header, up to the next one: its entries and the comments among and
after them. As with sections, no block adds to the passage of a block before (`passages_file`).
-/

namespace PrinterWiring

open ConfigLine

/-- The lines in front of the first header. -/
def lead : List ConfigLine → List ConfigLine
  | [] => []
  | header _ :: _ => []
  | line :: lines => line :: lead lines

/-- The lines between a header and the next one. -/
structure Passage where
  name : String
  lines : List ConfigLine
deriving DecidableEq

/-- The passages of a file, from its lines. -/
def passages : List ConfigLine → List Passage
  | [] => []
  | header name :: lines => ⟨name, lead lines⟩ :: passages lines
  | _ :: lines => passages lines

/-- All passages of a configuration. -/
def Rendered.passages (r : Rendered) : List Passage := r.files.flatMap fun file => PrinterWiring.passages file.2

section
variable {lines more : List ConfigLine}

private theorem lead_append (headed : lead more = []) : lead (lines ++ more) = lead lines := by
  induction lines with
  | nil => exact headed
  | cons line lines ih => cases line <;> simp [lead, ih]

private theorem passages_append (headed : lead more = []) :
    passages (lines ++ more) = passages lines ++ passages more := by
  induction lines with
  | nil => rfl
  | cons line lines ih => cases line <;> simp [passages, lead_append headed, ih]

theorem lead_of_plain (plain : sectionNames lines = []) : lead (lines ++ more) = lines ++ lead more := by
  induction lines with
  | nil => rfl
  | cons line lines ih =>
    cases line with
    | header name => cases plain
    | comment text => exact congrArg (comment text :: ·) (ih plain)
    | entry key value => exact congrArg (entry key value :: ·) (ih plain)

theorem passages_of_plain (plain : sectionNames lines = []) : passages (lines ++ more) = passages more := by
  induction lines with
  | nil => rfl
  | cons line lines ih =>
    cases line with
    | header name => cases plain
    | comment text | entry key value => exact ih plain

/-- There is one passage for each section. -/
theorem passages_names (lines : List ConfigLine) : (passages lines).map (·.name) = sectionNames lines := by
  induction lines with
  | nil => rfl
  | cons line lines ih =>
    cases line with
    | header name => exact congrArg (name :: ·) ih
    | comment text | entry key value => exact ih

/-- There is one passage for each section of a rendering. -/
theorem Rendered.passages_names (r : Rendered) : r.passages.map (·.name) = r.sections.map (·.name) := by
  simp only [Rendered.passages, Rendered.sections, List.map_flatMap, PrinterWiring.passages_names, sectionNames]

end

private theorem passages_flatMap {blocks : List ConfigBlock} (headed : ∀ b ∈ blocks, lead b.lines = []) :
    lead (blocks.flatMap (·.lines)) = [] ∧
      passages (blocks.flatMap (·.lines)) = blocks.flatMap fun b => passages b.lines := by
  induction blocks with
  | nil => exact ⟨rfl, rfl⟩
  | cons b blocks ih =>
    obtain ⟨first, rest⟩ := List.forall_mem_cons.mp headed
    obtain ⟨loose, whole⟩ := ih rest
    rw [List.flatMap_cons, lead_append loose, passages_append loose, whole]
    exact ⟨first, rfl⟩

namespace Session

variable {gap : String} {s : Session} {b : ConfigBlock} {mode : RenderMode} {r : Rendered} {p : Passage}

private theorem headed_probe (here : b ∈ s.probeBlocks gap) : lead b.lines = [] := by
  have each : ∀ b' ∈ s.probeBlocks gap, lead b'.lines = [] := by
    by_cases touch : s.settings.probeKind.getD .proximity = .bltouch <;> by_cases homes : s.settings.zStop = .probe <;>
      cases assigned : s.isAssigned .probe <;> simp [probeBlocks, touch, homes, assigned, lead]
  exact each b here

/-- All blocks begin with a header, apart from those of the title, which come first. -/
theorem title_first (gap : String) (s : Session) :
    ∃ blocks, s.configBlocks gap = s.titleBlocks ++ blocks ∧ ∀ b ∈ blocks, lead b.lines = [] := by
  simp only [configBlocks, List.append_assoc]
  refine ⟨_, rfl, fun b here => ?_⟩
  simp only [List.mem_append, List.mem_flatMap, List.mem_singleton] at here
  rcases here with mcu | rfl | ⟨axis, _, stepper⟩ | rfl | bed | ⟨kind, _, fan⟩ | probe | light
  · rcases List.mem_cons.mp mcu with rfl | mcu
    · rfl
    · split_ifs at mcu
      · rw [List.mem_singleton.mp mcu]
        rfl
      · cases mcu
  · rfl
  · rw [(mem_stepperBlocks.mp stepper).2]
    rfl
  · rfl
  · unfold bedBlocks at bed
    split_ifs at bed
    · rw [List.mem_singleton.mp bed]
      rfl
    · cases bed
  · rw [(mem_fanBlocks.mp fan).2]
    cases s.pin? ⟨.fan kind, .secondary⟩ .pin <;> rfl
  · exact headed_probe probe
  · unfold lightBlocks at light
    split_ifs at light
    · rw [List.mem_singleton.mp light]
      rfl
    · cases light

private theorem passages_title (file : ConfigFile) :
    passages (linesOf file s.titleBlocks) =
      (s.titleBlocks.filter (·.file = file)).flatMap fun b => passages b.lines := by
  unfold titleBlocks linesOf
  cases s.board? .toolboard <;> cases file <;> rfl

/-- The passages of a file are those of its blocks. -/
theorem passages_file (gap : String) (s : Session) (file : ConfigFile) :
    passages (linesOf file (s.configBlocks gap)) =
      ((s.configBlocks gap).filter (·.file = file)).flatMap fun b => passages b.lines := by
  obtain ⟨blocks, split, headed⟩ := title_first gap s
  have own : ∀ b ∈ blocks.filter (·.file = file), lead b.lines = [] :=
    fun b here => headed b (List.mem_filter.mp here).1
  have rest := passages_flatMap own
  have lines : linesOf file (s.titleBlocks ++ blocks) =
      linesOf file s.titleBlocks ++ (blocks.filter (·.file = file)).flatMap (·.lines) := by
    simp only [linesOf, List.filter_append, List.flatMap_append]
  rw [split, lines, passages_append rest.1, passages_title, rest.2, List.filter_append, List.flatMap_append]

/-- The passages of a rendering are those of its blocks. -/
theorem mem_passages (done : s.render mode = .ok r) :
    p ∈ r.passages ↔ ∃ b ∈ s.configBlocks placeholderPin, p ∈ passages b.lines := by
  rw [Rendered.passages, List.mem_flatMap]
  constructor
  · rintro ⟨file, inside, listed⟩
    rw [((mem_files done).mp inside).2, passages_file] at listed
    obtain ⟨b, here, listed⟩ := List.mem_flatMap.mp listed
    exact ⟨b, (List.mem_filter.mp here).1, listed⟩
  · rintro ⟨b, here, listed⟩
    have inside : (b.file, linesOf b.file (s.configBlocks placeholderPin)) ∈ r.files :=
      (mem_files done).mpr ⟨(stands_of_mem here).filed, rfl⟩
    refine ⟨_, inside, ?_⟩
    rw [passages_file]
    exact List.mem_flatMap.mpr ⟨b, List.mem_filter.mpr ⟨here, decide_eq_true rfl⟩, listed⟩

end Session

end PrinterWiring
