import PrinterWiring.Proofs.PrinterConfig.References
import PrinterWiring.Proofs.Session.Settings

/-!
# Free texts

Some settings are free texts. They are values of entries and nothing else: configurations of sessions that differ in
free texts differ in the values of such entries (`render_masked`). A value stays on its row if it holds no line feed,
and which texts must do so is seen from the session (`whole_render`).
-/

namespace PrinterWiring

open ConfigLine

/-! ## What free texts leave open -/

/-- The keys of the entries whose values are free texts. -/
def textKeys : List String := ["serial", "canbus_uuid", "sensor_type"]

/-- A line without its free text. -/
def ConfigLine.masked : ConfigLine → ConfigLine
  | entry key value => entry key (if key ∈ textKeys then "" else value)
  | line => line

/-- Settings with free texts of which no more is left than whether they are set. -/
def Settings.masked (t : Settings) : Settings :=
  { t with
    extruderSensor := t.extruderSensor.map fun _ => ""
    bedSensor := t.bedSensor.map fun _ => ""
    mcuSerial := t.mcuSerial.map fun _ => ""
    toolboardUuid := t.toolboardUuid.map fun _ => "" }

/-- A document without its free texts. -/
def Document.masked (d : Document) : Document := d.withSettings d.settings.masked

/-- A session without its free texts. -/
def Session.masked (s : Session) : Session := s.withSettings s.settings.masked

/-- A block without its free texts. -/
def ConfigBlock.masked (b : ConfigBlock) : ConfigBlock := { b with lines := b.lines.map ConfigLine.masked }

/-- A configuration without its free texts. -/
def Rendered.masked (r : Rendered) : Rendered :=
  { r with files := r.files.map fun file => (file.1, file.2.map ConfigLine.masked) }

namespace Session

variable {gap : String}

private theorem linesOf_masked (file : ConfigFile) (blocks : List ConfigBlock) :
    linesOf file (blocks.map ConfigBlock.masked) = (linesOf file blocks).map ConfigLine.masked := by
  have same : (fun b : ConfigBlock => decide (b.file = file)) ∘ ConfigBlock.masked = fun b => decide (b.file = file) :=
    rfl
  rw [linesOf, List.filter_map, same, List.flatMap_map, linesOf, List.map_flatMap]
  rfl

/-- Free texts make no difference to the rest of the blocks. -/
theorem configBlocks_masked (gap : String) (s : Session) :
    (s.masked.configBlocks gap).map ConfigBlock.masked = (s.configBlocks gap).map ConfigBlock.masked := by
  have mcu : s.masked.mcuBlocks.map ConfigBlock.masked = s.mcuBlocks.map ConfigBlock.masked := by
    have serial : s.masked.settings.mcuSerial = s.settings.mcuSerial.map fun _ => "" := rfl
    have uuid : s.masked.settings.toolboardUuid = s.settings.toolboardUuid.map fun _ => "" := rfl
    have board : s.masked.hasBoard .toolboard = s.hasBoard .toolboard := rfl
    unfold mcuBlocks
    rw [serial, uuid, board]
    cases s.settings.mcuSerial <;> cases s.settings.toolboardUuid <;> cases s.hasBoard .toolboard <;> rfl
  have extruder : (s.masked.extruderBlock gap).masked = (s.extruderBlock gap).masked := rfl
  have bed : (s.masked.bedBlocks gap).map ConfigBlock.masked = (s.bedBlocks gap).map ConfigBlock.masked := by
    have heater : s.masked.isAssigned .bedHeater = s.isAssigned .bedHeater := rfl
    have thermistor : s.masked.isAssigned .bedThermistor = s.isAssigned .bedThermistor := rfl
    unfold bedBlocks
    rw [heater, thermistor]
    split_ifs <;> rfl
  -- The other blocks hold no free text.
  have title : s.masked.titleBlocks = s.titleBlocks := rfl
  have printer : s.masked.printerBlock = s.printerBlock := rfl
  have stepper : s.masked.stepperBlocks gap = s.stepperBlocks gap := rfl
  have fan : s.masked.fanBlocks gap = s.fanBlocks gap := rfl
  have probe : s.masked.probeBlocks gap = s.probeBlocks gap := rfl
  have light : s.masked.lightBlocks gap = s.lightBlocks gap := rfl
  simp only [configBlocks, List.map_append, List.map_singleton, mcu, extruder, bed, title, printer, stepper, fan, probe,
    light]

/-- The review asks of a free text whether it is set. -/
theorem review_masked (s : Session) : s.masked.review = s.review := by
  have settings : s.masked.settingCautions = s.settingCautions := by
    have serial : s.masked.settings.mcuSerial.isNone = s.settings.mcuSerial.isNone := Option.isNone_map
    have extruder : s.masked.settings.extruderSensor.isNone = s.settings.extruderSensor.isNone := Option.isNone_map
    have bed : s.masked.settings.bedSensor.isNone = s.settings.bedSensor.isNone := Option.isNone_map
    simp only [settingCautions, serial, extruder, bed]
    rfl
  have toolboard : s.masked.toolboardCautions = s.toolboardCautions := by
    have uuid : s.masked.settings.toolboardUuid.isNone = s.settings.toolboardUuid.isNone := Option.isNone_map
    simp only [toolboardCautions, uuid]
    rfl
  have gaps : s.masked.gaps = s.gaps := rfl
  have probe : s.masked.probeCautions = s.probeCautions := rfl
  have driver : s.masked.driverCautions = s.driverCautions := rfl
  have assignments : s.masked.assignments = s.assignments := rfl
  have registry : s.masked.registry = s.registry := rfl
  simp only [review, cautions, settings, toolboard, gaps, probe, driver, assignments, registry]

private theorem configLines_masked (gap : String) (s : Session) :
    (s.masked.configLines gap).map (fun file => (file.1, file.2.map ConfigLine.masked)) =
      (s.configLines gap).map fun file => (file.1, file.2.map ConfigLine.masked) := by
  have files : s.masked.configFiles = s.configFiles := rfl
  simp only [configLines, files, List.map_map, Function.comp_def, ← linesOf_masked, configBlocks_masked]

/-- Free texts make no difference to the rest of what is rendered. -/
theorem render_masked (s : Session) (mode : RenderMode) :
    (s.masked.render mode).map Rendered.masked = (s.render mode).map Rendered.masked := by
  have drafts (warnings : List String) : Rendered.masked ⟨s.masked.configLines placeholderPin, warnings⟩ =
      Rendered.masked ⟨s.configLines placeholderPin, warnings⟩ := by
    simp only [Rendered.masked, configLines_masked]
  simp only [render, review_masked]
  cases mode with
  | placeholder => exact congrArg Except.ok (drafts _)
  | strict =>
    cases s.review.error? with
    | some e => rfl
    | none => exact congrArg Except.ok (drafts _)

/-- Free texts make no difference to what else is restored. -/
theorem restore_masked (c : Catalog) (d : Document) :
    restore c d.masked = ((restore c d).1.masked, (restore c d).2) := by
  rw [Document.masked, restore_withSettings, masked, restore_settings]

end Session

/-! ## Texts that stay on their rows -/

/-- A line whose free text, if it has one, stays on its row. -/
def ConfigLine.Whole : ConfigLine → Prop
  | entry key value => key ∈ textKeys → Text.OneLine value
  | _ => True

/-- A configuration whose free texts stay on their rows. -/
def Rendered.Whole (r : Rendered) : Prop := ∀ file ∈ r.files, ∀ line ∈ file.2, line.Whole

instance : DecidablePred ConfigLine.Whole
  | comment _ => .isTrue trivial
  | header _ => .isTrue trivial
  | entry key value => inferInstanceAs (Decidable (key ∈ textKeys → Text.OneLine value))

instance (r : Rendered) : Decidable r.Whole := inferInstanceAs (Decidable (∀ file ∈ _, ∀ line ∈ _, _))

@[simp] theorem whole_comment {text : String} : (comment text).Whole := trivial

@[simp] theorem whole_header {name : String} : (header name).Whole := trivial

@[simp] theorem whole_entry {key value : String} :
    (entry key value).Whole ↔ (key ∈ textKeys → Text.OneLine value) := Iff.rfl

namespace Session

variable {gap : String} {s : Session} {b : ConfigBlock} {motor : PrinterFunction} {a : HomingAxis}

/-- The free texts that the configuration of a session shows. -/
def shownTexts (s : Session) : List String :=
  s.settings.mcuSerial.toList ++ (if s.hasBoard .toolboard then s.settings.toolboardUuid.toList else [])
    ++ s.settings.extruderSensor.toList
    ++ (if s.isAssigned .bedHeater || s.isAssigned .bedThermistor then s.settings.bedSensor.toList else [])

private theorem whole_motorPinLines : ∀ line ∈ s.motorPinLines gap motor, line.Whole := by
  simp +decide [motorPinLines, count]

private theorem whole_driverLines : ∀ line ∈ s.driverLines gap motor, line.Whole := by
  unfold driverLines
  split
  · exact List.forall_mem_nil _
  · split
    · exact List.forall_mem_nil _
    · simp
    · next d _ _ =>
      unfold stallLines
      split_ifs <;> simp +decide [count]

private theorem whole_endstopLines : ∀ line ∈ s.endstopLines gap a, line.Whole := by
  unfold endstopLines
  cases s.homingSource a <;> simp +decide [count]

private theorem whole_travelLines : ∀ line ∈ s.travelLines a, line.Whole := by
  cases a with
  | x | y =>
    simp only [travelLines, rangeLines]
    split_ifs <;> simp +decide [count]
  | z =>
    simp only [travelLines]
    split_ifs <;> simp +decide [count]

private theorem whole_title (here : b ∈ s.titleBlocks) : ∀ line ∈ b.lines, line.Whole := by
  have each : ∀ b' ∈ s.titleBlocks, ∀ line ∈ b'.lines, line.Whole := by
    unfold titleBlocks
    cases s.board? .toolboard <;> simp
  exact each b here

/-- The block of the controllers is whole if their names are on one line. -/
theorem whole_mcu : (∀ b ∈ s.mcuBlocks, ∀ line ∈ b.lines, line.Whole) ↔
    ∀ text ∈ s.settings.mcuSerial.toList ++ (if s.hasBoard .toolboard then s.settings.toolboardUuid.toList else []),
      Text.OneLine text := by
  unfold mcuBlocks
  cases s.settings.mcuSerial <;> cases s.settings.toolboardUuid <;> split_ifs <;> simp +decide

private theorem whole_printer : ∀ line ∈ s.printerBlock.lines, line.Whole := by
  unfold printerBlock
  cases s.settings.kinematics <;> simp +decide [count]

private theorem whole_stepper {axis : Axis} (here : b ∈ s.stepperBlocks gap axis) : ∀ line ∈ b.lines, line.Whole := by
  have ends : ∀ line ∈ if axis.isPrimary then s.endstopLines gap axis.moves ++ s.travelLines axis.moves else [],
      line.Whole := by
    split_ifs
    · exact List.forall_mem_append.mpr ⟨whole_endstopLines, whole_travelLines⟩
    · exact List.forall_mem_nil _
  rw [(mem_stepperBlocks.mp here).2]
  simp only [List.forall_mem_append, List.forall_mem_cons]
  exact ⟨⟨⟨⟨trivial, whole_motorPinLines⟩, by simp +decide [count]⟩, ends⟩, whole_driverLines⟩

private theorem whole_extruder : (∀ line ∈ (s.extruderBlock gap).lines, line.Whole) ↔
    ∀ text ∈ s.settings.extruderSensor.toList, Text.OneLine text := by
  have motor : (∀ line ∈ s.motorPinLines gap .extruder, line.Whole) ↔ True := iff_true_intro whole_motorPinLines
  have driver : (∀ line ∈ s.driverLines gap .extruder, line.Whole) ↔ True := iff_true_intro whole_driverLines
  have own : (∀ line ∈ (s.extruderBlock gap).lines, line.Whole) ↔
      Text.OneLine (s.settings.extruderSensor.getD standardSensor) := by
    simp only [extruderBlock, List.forall_mem_append, List.forall_mem_cons, motor, driver]
    simp +decide
  rw [own]
  cases s.settings.extruderSensor <;> simp +decide

/-- The block of the bed is whole if the name of its sensor is on one line, where it is shown. -/
theorem whole_bed : (∀ b ∈ s.bedBlocks gap, ∀ line ∈ b.lines, line.Whole) ↔
    ∀ text ∈ if s.isAssigned .bedHeater || s.isAssigned .bedThermistor then s.settings.bedSensor.toList else [],
      Text.OneLine text := by
  unfold bedBlocks
  cases s.settings.bedSensor <;> split_ifs <;> simp +decide [count]

private theorem whole_fan {kind : FanKind} (here : b ∈ s.fanBlocks gap kind) : ∀ line ∈ b.lines, line.Whole := by
  have rules : ∀ line ∈ fanRuleLines kind, line.Whole := by cases kind <;> simp +decide
  rw [(mem_fanBlocks.mp here).2]
  refine List.forall_mem_append.mpr ⟨?_, rules⟩
  cases s.pin? ⟨.fan kind, .secondary⟩ .pin <;> simp +decide

private theorem whole_probe (here : b ∈ s.probeBlocks gap) : ∀ line ∈ b.lines, line.Whole := by
  have each : ∀ b' ∈ s.probeBlocks gap, ∀ line ∈ b'.lines, line.Whole := by
    by_cases touch : s.settings.probeKind.getD .proximity = .bltouch <;> by_cases homes : s.settings.zStop = .probe <;>
      cases assigned : s.isAssigned .probe <;> simp +decide [probeBlocks, touch, homes, assigned, count]
  exact each b here

private theorem whole_light (here : b ∈ s.lightBlocks gap) : ∀ line ∈ b.lines, line.Whole := by
  unfold lightBlocks at here
  split_ifs at here
  · rw [List.mem_singleton] at here
    simp +decide [here, count]
  · cases here

/-- Three blocks show free texts. -/
theorem whole_configBlocks : (∀ b ∈ s.configBlocks gap, ∀ line ∈ b.lines, line.Whole) ↔
    ∀ text ∈ s.shownTexts, Text.OneLine text := by
  have stepper : ∀ b ∈ (Enumerated.all : List Axis).flatMap (s.stepperBlocks gap), ∀ line ∈ b.lines, line.Whole := by
    intro b here
    obtain ⟨axis, _, here⟩ := List.mem_flatMap.mp here
    exact whole_stepper here
  have fan : ∀ b ∈ (Enumerated.all : List FanKind).flatMap (s.fanBlocks gap), ∀ line ∈ b.lines, line.Whole := by
    intro b here
    obtain ⟨kind, _, here⟩ := List.mem_flatMap.mp here
    exact whole_fan here
  simp only [configBlocks, shownTexts]
  rw [List.forall_mem_append, and_iff_left fun _ => whole_light, List.forall_mem_append,
    and_iff_left fun _ => whole_probe, List.forall_mem_append, and_iff_left fan, List.forall_mem_append, whole_bed,
    List.forall_mem_append, List.forall_mem_singleton, whole_extruder, List.forall_mem_append, and_iff_left stepper,
    List.forall_mem_append, List.forall_mem_singleton, and_iff_left whole_printer, List.forall_mem_append,
    and_iff_right fun _ => whole_title, whole_mcu, ← List.forall_mem_append, ← List.forall_mem_append]

/-- The free texts of a configuration stay on their rows exactly if those that it shows hold no line feed. -/
theorem whole_render {mode : RenderMode} {r : Rendered} (done : s.render mode = .ok r) :
    r.Whole ↔ ∀ text ∈ s.shownTexts, Text.OneLine text := by
  rw [← whole_configBlocks]
  constructor
  · intro whole b here line own
    have filed : (b.file, linesOf b.file (s.configBlocks placeholderPin)) ∈ r.files :=
      (mem_files done).mpr ⟨(stands_of_mem here).filed, rfl⟩
    exact whole _ filed line (mem_linesOf.mpr ⟨b, here, rfl, own⟩)
  · intro whole file inside line listed
    obtain ⟨b, here, own, _⟩ := exists_block done inside listed
    exact whole b here line own

end Session

end PrinterWiring
