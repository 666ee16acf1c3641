import Mathlib.Data.List.Perm.Basic
import PrinterWiring.Proofs.Names
import PrinterWiring.Proofs.PrinterConfig.Entries
import PrinterWiring.Proofs.Report.Complete

/-!
# Sections

A file is read as sections: each header opens one, and the entries up to the next header belong to it. No block leaves
entries to the section of a block before (`stands_of_mem`), so the sections of a file are those of its blocks, and all
files together have those of all blocks (`sections_perm`).
-/

namespace PrinterWiring

/-- A section of a configuration file. -/
structure ConfigSection where
  name : String
  entries : List (String × String)
deriving DecidableEq

/-- The entries in front of the first header. -/
def looseEntries : List ConfigLine → List (String × String)
  | [] => []
  | .comment _ :: lines => looseEntries lines
  | .header _ :: _ => []
  | .entry key value :: lines => (key, value) :: looseEntries lines

/-- The sections of a file, from its lines. -/
def sections : List ConfigLine → List ConfigSection
  | [] => []
  | .header name :: lines => ⟨name, looseEntries lines⟩ :: sections lines
  | _ :: lines => sections lines

/-- The names of the sections of a file, from its lines. -/
def sectionNames (lines : List ConfigLine) : List String := (sections lines).map (·.name)

/-- The name of the section that includes the file of the toolboard. -/
def includeName : String := "include " ++ ConfigFile.toolboard.name

/-- All sections of a configuration. -/
def Rendered.sections (r : Rendered) : List ConfigSection := r.files.flatMap fun file => PrinterWiring.sections file.2

open ConfigLine

section
variable {lines more : List ConfigLine} {key value name text : String} {n : Nat}

theorem looseEntries_append (headed : looseEntries more = []) : looseEntries (lines ++ more) = looseEntries lines := by
  induction lines with
  | nil => exact headed
  | cons line lines ih => cases line <;> simp [looseEntries, ih]

/-- The sections of lines that begin with a header follow those in front. -/
theorem sections_append (headed : looseEntries more = []) :
    sections (lines ++ more) = sections lines ++ sections more := by
  induction lines with
  | nil => rfl
  | cons line lines ih => cases line <;> simp [sections, looseEntries_append headed, ih]

theorem mem_looseEntries (plain : ∀ name, header name ∉ lines) (inside : entry key value ∈ lines) :
    (key, value) ∈ looseEntries lines := by
  induction lines with
  | nil => cases inside
  | cons line lines ih =>
    have rest : ∀ name, header name ∉ lines := fun name later => plain name (List.mem_cons_of_mem _ later)
    cases line with
    | comment text =>
      rcases List.mem_cons.mp inside with same | later
      · cases same
      · exact ih rest later
    | header name => exact absurd (List.mem_cons_self ..) (plain name)
    | entry k v =>
      rcases List.mem_cons.mp inside with same | later
      · cases same
        exact List.mem_cons_self ..
      · exact List.mem_cons_of_mem _ (ih rest later)

/-- A header and the entries behind it are a section. -/
theorem mem_sections_of_header (first : lines = header name :: more) :
    ⟨name, looseEntries more⟩ ∈ sections lines := by
  rw [first]
  exact List.mem_cons_self ..

@[simp] theorem sectionNames_nil : sectionNames [] = [] := rfl

@[simp] theorem sectionNames_comment : sectionNames (comment text :: lines) = sectionNames lines := rfl

@[simp] theorem sectionNames_header : sectionNames (header name :: lines) = name :: sectionNames lines := rfl

@[simp] theorem sectionNames_entry : sectionNames (entry key value :: lines) = sectionNames lines := rfl

@[simp] theorem sectionNames_count : sectionNames (Session.count key n :: lines) = sectionNames lines := rfl

@[simp] theorem sectionNames_append : sectionNames (lines ++ more) = sectionNames lines ++ sectionNames more := by
  induction lines with
  | nil => rfl
  | cons line lines ih => cases line <;> simp [ih]

theorem not_header_of_sectionNames (none : sectionNames lines = []) (name : String) : header name ∉ lines := by
  intro inside
  obtain ⟨before, after, rfl⟩ := List.append_of_mem inside
  simp at none

end

/-- If no entry stands in front of the headers of any block, none does in their file, and its sections are theirs. -/
theorem sections_flatMap {blocks : List ConfigBlock} (headed : ∀ b ∈ blocks, looseEntries b.lines = []) :
    looseEntries (blocks.flatMap (·.lines)) = [] ∧
      sections (blocks.flatMap (·.lines)) = blocks.flatMap fun b => sections b.lines := by
  induction blocks with
  | nil => exact ⟨rfl, rfl⟩
  | cons b blocks ih =>
    obtain ⟨first, rest⟩ := List.forall_mem_cons.mp headed
    obtain ⟨loose, whole⟩ := ih rest
    rw [List.flatMap_cons, looseEntries_append loose, sections_append loose, whole]
    exact ⟨first, rfl⟩

private theorem sections_linesOf {blocks : List ConfigBlock} (headed : ∀ b ∈ blocks, looseEntries b.lines = [])
    (file : ConfigFile) :
    looseEntries (linesOf file blocks) = [] ∧
      sections (linesOf file blocks) = (blocks.filter (·.file = file)).flatMap fun b => sections b.lines :=
  sections_flatMap fun b inside => headed b (List.mem_filter.mp inside).1

namespace Session

variable {gap : String} {s : Session} {b : ConfigBlock}

/-! ## Blocks and their files -/

theorem mem_of_stepper {axis : Axis} (own : b ∈ s.stepperBlocks gap axis) : b ∈ s.configBlocks gap := by
  have listed := List.mem_flatMap.mpr ⟨axis, Enumerated.mem_all axis, own⟩
  simp only [configBlocks, List.mem_append, listed, true_or, or_true]

theorem mem_of_extruder : s.extruderBlock gap ∈ s.configBlocks gap := by simp [configBlocks]

theorem mem_of_bed (own : b ∈ s.bedBlocks gap) : b ∈ s.configBlocks gap := by simp [configBlocks, own]

theorem mem_of_fan {kind : FanKind} (own : b ∈ s.fanBlocks gap kind) : b ∈ s.configBlocks gap := by
  have listed := List.mem_flatMap.mpr ⟨kind, Enumerated.mem_all kind, own⟩
  simp only [configBlocks, List.mem_append, listed, true_or, or_true]

theorem mem_of_probe (own : b ∈ s.probeBlocks gap) : b ∈ s.configBlocks gap := by simp [configBlocks, own]

theorem mem_of_light (own : b ∈ s.lightBlocks gap) : b ∈ s.configBlocks gap := by simp [configBlocks, own]

theorem mem_configFiles {file : ConfigFile} :
    file ∈ s.configFiles ↔ (file = .toolboard → s.hasBoard .toolboard = true) := by
  unfold configFiles
  cases file <;> cases s.hasBoard .toolboard <;> simp

private theorem printer_mem : .printer ∈ s.configFiles := List.mem_cons_self ..

private theorem fileOf_mem (f : PrinterFunction) : s.fileOf f ∈ s.configFiles := by
  rw [mem_configFiles, fileOf]
  split_ifs with placed
  · exact fun _ => placed.2
  · simp

theorem headed_driverLines (motor : PrinterFunction) : looseEntries (s.driverLines gap motor) = [] := by
  unfold driverLines
  split
  · rfl
  · split <;> rfl

/-- A block whose entries are all its own, in a file of the configuration. -/
@[mk_iff]
structure Stands (s : Session) (b : ConfigBlock) : Prop where
  headed : looseEntries b.lines = []
  filed : b.file ∈ s.configFiles

private theorem stands_title (here : b ∈ s.titleBlocks) : s.Stands b := by
  unfold titleBlocks at here
  cases selected : s.board? .toolboard with
  | none =>
    rw [selected, List.mem_singleton] at here
    exact here ▸ ⟨rfl, printer_mem⟩
  | some id =>
    have toolboard : s.hasBoard .toolboard = true := Option.isSome_iff_exists.mpr ⟨id, selected⟩
    simp only [selected, List.mem_cons, List.not_mem_nil, or_false] at here
    rcases here with rfl | rfl
    · exact ⟨rfl, printer_mem⟩
    · exact ⟨rfl, mem_configFiles.mpr fun _ => toolboard⟩

private theorem stands_mcu (here : b ∈ s.mcuBlocks) : s.Stands b := by
  rcases List.mem_cons.mp here with rfl | here
  · exact ⟨rfl, printer_mem⟩
  · split_ifs at here with toolboard
    · rw [List.mem_singleton] at here
      exact here ▸ ⟨rfl, mem_configFiles.mpr fun _ => toolboard⟩
    · cases here

private theorem stands_bed (here : b ∈ s.bedBlocks gap) : s.Stands b := by
  unfold bedBlocks at here
  split_ifs at here
  · rw [List.mem_singleton] at here
    exact here ▸ ⟨rfl, fileOf_mem _⟩
  · cases here

private theorem stands_fan {kind : FanKind} (here : b ∈ s.fanBlocks gap kind) : s.Stands b := by
  rw [(mem_fanBlocks.mp here).2]
  refine ⟨?_, fileOf_mem _⟩
  cases s.pin? ⟨.fan kind, .secondary⟩ .pin <;> rfl

private theorem stands_probe (here : b ∈ s.probeBlocks gap) : s.Stands b := by
  have each : ∀ b' ∈ s.probeBlocks gap, s.Stands b' := by
    by_cases touch : s.settings.probeKind.getD .proximity = .bltouch <;> by_cases homes : s.settings.zStop = .probe <;>
      cases assigned : s.isAssigned .probe <;>
        simp [probeBlocks, touch, homes, assigned, stands_iff, looseEntries, fileOf_mem, printer_mem]
  exact each b here

private theorem stands_light (here : b ∈ s.lightBlocks gap) : s.Stands b := by
  unfold lightBlocks at here
  split_ifs at here
  · rw [List.mem_singleton] at here
    exact here ▸ ⟨rfl, fileOf_mem _⟩
  · cases here

/-- Every block begins with a header, in a file that is written. -/
theorem stands_of_mem (here : b ∈ s.configBlocks gap) : s.Stands b := by
  simp only [configBlocks, List.mem_append, List.mem_flatMap, List.mem_singleton] at here
  rcases here with (((((((title | mcu) | rfl) | ⟨axis, _, stepper⟩) | rfl) | bed) | ⟨kind, _, fan⟩) | probe) | light
  · exact stands_title title
  · exact stands_mcu mcu
  · exact ⟨rfl, printer_mem⟩
  · exact (mem_stepperBlocks.mp stepper).2 ▸ ⟨rfl, fileOf_mem _⟩
  · exact ⟨rfl, fileOf_mem _⟩
  · exact stands_bed bed
  · exact stands_fan fan
  · exact stands_probe probe
  · exact stands_light light

/-- The sections of a file are those of the blocks in it. -/
theorem sections_file (file : ConfigFile) :
    sections (linesOf file (s.configBlocks gap)) =
      ((s.configBlocks gap).filter (·.file = file)).flatMap fun b => sections b.lines :=
  (sections_linesOf (fun _ here => (stands_of_mem here).headed) file).2

theorem headed_file (file : ConfigFile) : looseEntries (linesOf file (s.configBlocks gap)) = [] :=
  (sections_linesOf (fun _ here => (stands_of_mem here).headed) file).1

/-- The sections of a block are sections of its file. -/
theorem mem_sections_file (here : b ∈ s.configBlocks gap) {sec : ConfigSection} (inside : sec ∈ sections b.lines) :
    sec ∈ sections (linesOf b.file (s.configBlocks gap)) := by
  rw [sections_file, List.mem_flatMap]
  exact ⟨b, List.mem_filter.mpr ⟨here, by simp⟩, inside⟩

private theorem filter_files_perm {blocks : List ConfigBlock} (filed : ∀ b ∈ blocks, b.file ∈ s.configFiles) :
    (s.configFiles.flatMap fun file => blocks.filter (·.file = file)).Perm blocks := by
  cases toolboard : s.hasBoard .toolboard with
  | false =>
    have all : blocks.filter (·.file = .printer) = blocks := by
      refine List.filter_eq_self.mpr fun b here => decide_eq_true ?_
      simpa [configFiles, toolboard] using filed b here
    simp [configFiles, toolboard, all]
  | true =>
    have rest : blocks.filter (·.file = .toolboard) = blocks.filter fun b => !decide (b.file = .printer) := by
      refine List.filter_congr fun b _ => ?_
      cases b.file <;> rfl
    simpa [configFiles, toolboard, rest] using List.filter_append_perm (fun b => decide (b.file = .printer)) blocks

/-- All files together have the sections of all blocks. -/
theorem sections_perm {mode : RenderMode} {r : Rendered} (done : s.render mode = .ok r) :
    r.sections.Perm ((s.configBlocks placeholderPin).flatMap fun b => sections b.lines) := by
  have filed : ∀ b ∈ s.configBlocks placeholderPin, b.file ∈ s.configFiles := fun _ here => (stands_of_mem here).filed
  have same : r.sections =
      (s.configFiles.flatMap fun file => (s.configBlocks placeholderPin).filter (·.file = file)).flatMap fun b =>
        sections b.lines := by
    rw [Rendered.sections, files_of_render done, configLines, List.flatMap_map, List.flatMap_assoc]
    simp only [sections_file]
  rw [same]
  exact (filter_files_perm filed).flatMap_right fun b => sections b.lines

/-! ## Names of sections -/

/-- The names of sections that set up a probe or include a file. -/
def reserved : List String := [includeName, "probe", "bltouch"]

/-- Blocks none of whose sections has a reserved name. -/
def Ordinary (blocks : List ConfigBlock) : Prop := ∀ b ∈ blocks, ∀ name ∈ sectionNames b.lines, name ∉ reserved

variable {motor : PrinterFunction} {name : String}

@[simp] theorem sectionNames_motorPinLines : sectionNames (s.motorPinLines gap motor) = [] := rfl

@[simp] theorem sectionNames_endstopLines {a : HomingAxis} : sectionNames (s.endstopLines gap a) = [] := by
  unfold endstopLines
  cases s.homingSource a <;> rfl

@[simp] theorem sectionNames_travelLines {a : HomingAxis} : sectionNames (s.travelLines a) = [] := by
  cases a with
  | x | y =>
    simp only [travelLines, rangeLines]
    split_ifs <;> rfl
  | z =>
    simp only [travelLines]
    split_ifs <;> rfl

@[simp] theorem sectionNames_ends {axis : Axis} :
    sectionNames (if axis.isPrimary then s.endstopLines gap axis.moves ++ s.travelLines axis.moves else []) = [] := by
  split_ifs <;> simp

@[simp] theorem sectionNames_stallLines {d : Driver} : sectionNames (s.stallLines gap motor d) = [] := by
  unfold stallLines
  split_ifs <;> rfl

@[simp] theorem sectionNames_senseLines {d : Driver} {value : String} :
    sectionNames (if d = .tmc5160 then [entry "sense_resistor" value] else []) = [] := by
  split_ifs <;> rfl

/-- The driver of a motor has one section, if it is configured. -/
theorem sectionNames_driverLines (gap : String) (s : Session) (motor : PrinterFunction) :
    sectionNames (s.driverLines gap motor) = [] ∨
      ∃ d : Driver, sectionNames (s.driverLines gap motor) = [d.name ++ " " ++ motor.key] := by
  unfold driverLines
  split
  · exact .inl rfl
  · split
    · exact .inl rfl
    · exact .inl rfl
    · next d _ _ => exact .inr ⟨d, by simp⟩

/-- A driver takes no reserved name. -/
theorem not_reserved_of_driverLines (inside : name ∈ sectionNames (s.driverLines gap motor)) : name ∉ reserved := by
  have known : ∀ (d : Driver) (f : PrinterFunction), d.name ++ " " ++ f.key ∉ reserved := by decide +kernel
  rcases sectionNames_driverLines gap s motor with none | ⟨d, one⟩
  · rw [none] at inside
    cases inside
  · rw [one, List.mem_singleton] at inside
    exact inside ▸ known d motor

theorem ordinary_mcu : Ordinary s.mcuBlocks := by
  unfold Ordinary mcuBlocks
  cases s.settings.mcuSerial <;> cases s.settings.toolboardUuid <;> split_ifs <;> simp <;> decide

theorem ordinary_printer : Ordinary [s.printerBlock] := by
  unfold Ordinary printerBlock
  cases s.settings.kinematics <;> simp <;> decide

theorem ordinary_stepper (axis : Axis) : Ordinary (s.stepperBlocks gap axis) := by
  intro b here name inside
  rw [(mem_stepperBlocks.mp here).2] at inside
  simp only [List.cons_append, sectionNames_header, sectionNames_append, sectionNames_motorPinLines, sectionNames_count,
    sectionNames_nil, sectionNames_ends, List.nil_append, List.append_nil, List.mem_cons] at inside
  rcases inside with rfl | driver
  · cases axis <;> decide
  · exact not_reserved_of_driverLines driver

theorem ordinary_extruder : Ordinary [s.extruderBlock gap] := by
  intro b here name inside
  rw [List.mem_singleton.mp here] at inside
  simp only [extruderBlock, List.cons_append, sectionNames_header, sectionNames_append, sectionNames_motorPinLines,
    sectionNames_entry, sectionNames_count, sectionNames_nil, List.nil_append, List.append_nil, List.mem_cons] at inside
  rcases inside with rfl | driver
  · decide
  · exact not_reserved_of_driverLines driver

theorem ordinary_bed : Ordinary (s.bedBlocks gap) := by
  intro b here name inside
  unfold bedBlocks at here
  split_ifs at here
  · rw [List.mem_singleton] at here
    subst here
    have named : name = "heater_bed" := List.mem_singleton.mp inside
    rw [named]
    decide
  · cases here

theorem ordinary_fan (kind : FanKind) : Ordinary (s.fanBlocks gap kind) := by
  intro b here name inside
  rw [(mem_fanBlocks.mp here).2] at inside
  have rules : sectionNames (fanRuleLines kind) = [] := by cases kind <;> rfl
  have fan : fanHeader kind ∉ reserved := by cases kind <;> decide
  have pins : "multi_pin " ++ pinGroup kind ∉ reserved := by cases kind <;> decide
  cases held : s.pin? ⟨.fan kind, .secondary⟩ .pin with
  | none =>
    simp only [held, sectionNames_append, sectionNames_header, sectionNames_entry, sectionNames_nil, rules,
      List.append_nil, List.mem_singleton] at inside
    exact inside ▸ fan
  | some second =>
    simp only [held, sectionNames_append, sectionNames_header, sectionNames_entry, sectionNames_nil, rules,
      List.append_nil, List.mem_cons, List.not_mem_nil, or_false] at inside
    rcases inside with rfl | rfl
    · exact pins
    · exact fan

theorem ordinary_light : Ordinary (s.lightBlocks gap) := by
  intro b here name inside
  unfold lightBlocks at here
  split_ifs at here
  · rw [List.mem_singleton] at here
    subst here
    have named : name = "output_pin caselight" := List.mem_singleton.mp inside
    rw [named]
    decide
  · cases here

end Session

end PrinterWiring
