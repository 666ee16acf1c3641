import PrinterWiring.Proofs.PrinterConfig.WellFormed

/-!
# What becomes of each port

No port that a slot has is left out of a configuration: each slot has an entry for each of its main pins, in the section
of the part that it belongs to, and a fan with two ports has a group of both. The only exception is the switch of an
axis that homes against the probe. The sections of a part stand in the file of the toolboard exactly if the part is on
the toolboard (`render_covers`).
-/

namespace PrinterWiring

open ConfigLine

namespace Session

/-! ## Parts -/

/-- The names that the sections of the part of a function can have, unless it is a part of the extruder. -/
def partNames : PrinterFunction → List String
  | .stepper axis => motorNames (.stepper axis)
  | .bedHeater => ["heater_bed"]
  | .fan kind => ["multi_pin " ++ pinGroup kind, fanHeader kind]
  | .probe => ["bltouch", "probe"]
  | .caseLight => ["output_pin caselight"]
  | _ => []

/-- The names of all other sections. -/
def commonNames : List String :=
  [includeName, "mcu", "mcu toolboard", "printer", "safe_z_home", "bed_mesh"] ++ motorNames .extruder

/-- No two functions name a section alike, and none takes a common name. -/
theorem partNames_nodup : (commonNames ++ (Enumerated.all : List PrinterFunction).flatMap partNames).Nodup := by
  decide +kernel

/-- A part is known by the names of its sections. -/
theorem partNames_inj {f g : PrinterFunction} {name : String} (own : name ∈ partNames f) (other : name ∈ partNames g) :
    f = g :=
  eq_of_nodup_flatMap (List.nodup_append.mp partNames_nodup).2.1 (Enumerated.mem_all f) (Enumerated.mem_all g) own other

private theorem not_mem_partNames {f : PrinterFunction} {name : String} (common : name ∈ commonNames) :
    name ∉ partNames f := by
  intro own
  have listed := List.mem_flatMap.mpr ⟨f, Enumerated.mem_all f, own⟩
  exact (List.nodup_append.mp partNames_nodup).2.2 name common name listed rfl

/-- A function is on the toolboard: its primary port is, or without one its location, and a toolboard is selected. -/
def AtToolboard (s : Session) (f : PrinterFunction) : Prop :=
  (∃ id, s.board? .toolboard = some id) ∧
    ((∃ a, s.port? ⟨f, .primary⟩ = some a ∧ a.role = .toolboard) ∨
      (s.port? ⟨f, .primary⟩ = none ∧ s.locations.get? f = some .toolboard))

/-- A pin of the primary port of a function is all that an entry of a section says. -/
def Shows (s : Session) (r : Rendered) (f : PrinterFunction) (name : PinName) (heading key : String) : Prop :=
  ∃ v, s.pin? ⟨f, .primary⟩ name = some v ∧ ∃ sec ∈ r.sections, sec.name = heading ∧ (key, v) ∈ sec.entries

/-- The step, direction and enable pins of a motor are in its section. -/
def ShowsMotor (s : Session) (r : Rendered) (motor : PrinterFunction) : Prop :=
  s.Shows r motor .step motor.key "step_pin" ∧ s.Shows r motor .dir motor.key "dir_pin" ∧
    s.Shows r motor .enable motor.key "enable_pin"

/-- What a configuration has for a slot with a port. -/
def Covers (s : Session) (r : Rendered) : SlotKey → Prop
  | ⟨.stepper axis, .primary⟩ => s.ShowsMotor r (.stepper axis)
  | ⟨.extruder, .primary⟩ => s.ShowsMotor r .extruder
  | ⟨.extruderHeater, .primary⟩ => s.Shows r .extruderHeater .pin "extruder" "heater_pin"
  | ⟨.extruderThermistor, .primary⟩ => s.Shows r .extruderThermistor .pin "extruder" "sensor_pin"
  | ⟨.bedHeater, .primary⟩ => s.Shows r .bedHeater .pin "heater_bed" "heater_pin"
  | ⟨.bedThermistor, .primary⟩ => s.Shows r .bedThermistor .pin "heater_bed" "sensor_pin"
  | ⟨.fan kind, .primary⟩ =>
    s.port? ⟨.fan kind, .secondary⟩ = none → s.Shows r (.fan kind) .pin (fanHeader kind) "pin"
  | ⟨.fan kind, .secondary⟩ => ∃ first second, s.pin? ⟨.fan kind, .primary⟩ .pin = some first ∧
    s.pin? ⟨.fan kind, .secondary⟩ .pin = some second ∧
    ⟨"multi_pin " ++ pinGroup kind, [("pins", first ++ ", " ++ second)]⟩ ∈ r.sections
  | ⟨.probe, .primary⟩ =>
    if s.settings.probeKind = some .bltouch then s.Shows r .probe .signal "bltouch" "sensor_pin"
    else s.Shows r .probe .signal "probe" "pin"
  | ⟨.endstop a, .primary⟩ =>
    if a = .z ∧ s.settings.zStop = .probe then
      ∃ sec ∈ r.sections, sec.name = (PrinterFunction.stepper .z).key ∧ ("endstop_pin", probeEndstop) ∈ sec.entries
    else s.Shows r (.endstop a) .pin (PrinterFunction.stepper a.motor).key "endstop_pin"
  | ⟨.caseLight, .primary⟩ => s.Shows r .caseLight .pin "output_pin caselight" "pin"
  | ⟨_, .secondary⟩ => False

variable {c : Catalog} {s : Session} {gap : String} {b : ConfigBlock} {f : PrinterFunction} {mode : RenderMode}
  {r : Rendered}

/-! ## Files of parts -/

/-- What is written to the file of the toolboard is what has its port there. -/
theorem fileOf_eq_toolboard : s.fileOf f = .toolboard ↔ s.AtToolboard f := by
  have placed : s.homeRole f = .toolboard ↔
      (∃ a, s.port? ⟨f, .primary⟩ = some a ∧ a.role = .toolboard) ∨
        (s.port? ⟨f, .primary⟩ = none ∧ s.locations.get? f = some .toolboard) := by
    unfold homeRole
    cases s.port? ⟨f, .primary⟩ with
    | some a => simp
    | none => cases s.locations.get? f <;> simp
  have selected : s.hasBoard .toolboard = true ↔ ∃ id, s.board? .toolboard = some id := Table.contains_iff
  rw [AtToolboard, ← placed, ← selected, fileOf]
  split_ifs with here
  · exact iff_of_true rfl here.symm
  · exact iff_of_false (by decide) fun there => here there.symm

private theorem file_of_probe (here : b ∈ s.probeBlocks gap) :
    b.file = s.fileOf .probe ∨ sectionNames b.lines = ["safe_z_home", "bed_mesh"] := by
  have each : ∀ b' ∈ s.probeBlocks gap,
      b'.file = s.fileOf .probe ∨ sectionNames b'.lines = ["safe_z_home", "bed_mesh"] := by
    by_cases homes : s.settings.zStop = .probe <;> cases assigned : s.isAssigned .probe <;>
      simp [probeBlocks, homes, assigned]
  exact each b here

/-- The sections of a part stand in its file. -/
theorem file_of_part (here : b ∈ s.configBlocks gap) {name : String} (inside : name ∈ sectionNames b.lines)
    (own : name ∈ partNames f) : b.file = s.fileOf f := by
  have part {g : PrinterFunction} {blocks : List ConfigBlock} (names : (namesOf blocks).Sublist (partNames g))
      (here : b ∈ blocks) : f = g :=
    partNames_inj own (names.subset (List.mem_flatMap.mpr ⟨b, here, inside⟩))
  have refuted {blocks : List ConfigBlock} {names : List String} (known : (namesOf blocks).Sublist names)
      (common : ∀ name ∈ names, name ∈ commonNames) (here : b ∈ blocks) : b.file = s.fileOf f :=
    absurd own (not_mem_partNames (common name (known.subset (List.mem_flatMap.mpr ⟨b, here, inside⟩))))
  simp only [configBlocks, List.mem_append, List.mem_flatMap] at here
  rcases here with
    (((((((title | mcu) | printer) | ⟨axis, _, stepper⟩) | extruder) | bed) | ⟨kind, _, fan⟩) | probe) | light
  · exact refuted names_title (by decide) title
  · exact refuted names_mcu (by decide) mcu
  · exact refuted names_printer (by decide) printer
  · obtain rfl := part (g := .stepper axis) (names_stepper axis) stepper
    rw [(mem_stepperBlocks.mp stepper).2]
  · exact refuted names_extruder (fun _ own => List.mem_append_right _ own) extruder
  · obtain rfl := part (g := .bedHeater) names_bed bed
    unfold bedBlocks at bed
    split_ifs at bed
    · rw [List.mem_singleton.mp bed]
    · cases bed
  · obtain rfl := part (g := .fan kind) (names_fan kind) fan
    rw [(mem_fanBlocks.mp fan).2]
  · -- What homes and levels with the probe is in the main file, and has no section of a part.
    rcases file_of_probe probe with file | level
    · have named := names_probe.subset (List.mem_flatMap.mpr ⟨b, probe, inside⟩)
      obtain rfl | other : f = .probe ∨ name ∈ commonNames := by
        simp only [List.mem_cons, List.not_mem_nil, or_false] at named
        rcases named with rfl | rfl | rfl | rfl
        · exact .inl (partNames_inj own (by decide))
        · exact .inl (partNames_inj own (by decide))
        · exact .inr (by decide)
        · exact .inr (by decide)
      · exact file
      · exact absurd own (not_mem_partNames other)
    · rw [level] at inside
      have common : ∀ name ∈ ["safe_z_home", "bed_mesh"], name ∈ commonNames := by decide
      exact absurd own (not_mem_partNames (common name inside))
  · obtain rfl := part (g := .caseLight) names_light light
    unfold lightBlocks at light
    split_ifs at light
    · rw [List.mem_singleton.mp light]
    · cases light

/-- The sections of a part are in the file of the toolboard exactly if the part is on the toolboard. -/
theorem part_filed (done : s.render mode = .ok r) {file : ConfigFile × List ConfigLine} (inside : file ∈ r.files)
    {name : String} (named : name ∈ sectionNames file.2) (own : name ∈ partNames f) :
    file.1 = .toolboard ↔ s.AtToolboard f := by
  rw [sectionNames, ((mem_files done).mp inside).2, sections_file, List.mem_map] at named
  obtain ⟨sec, listed, rfl⟩ := named
  obtain ⟨b, here, listed⟩ := List.mem_flatMap.mp listed
  obtain ⟨here, same⟩ := List.mem_filter.mp here
  rw [← of_decide_eq_true same, file_of_part here (List.mem_map_of_mem listed) own, fileOf_eq_toolboard]

/-! ## Blocks of parts -/

theorem stepper_lines (gap : String) {axis : Axis}
    (rendered : axis.isPrimary = true ∨ s.isAssigned (.stepper axis) = true) :
    ∃ b ∈ s.stepperBlocks gap axis, b.lines = header (PrinterFunction.stepper axis).key ::
      (s.motorPinLines gap (.stepper axis) ++ count "rotation_distance" (if axis.moves = .z then 8 else 40) ::
        ((if axis.isPrimary then s.endstopLines gap axis.moves ++ s.travelLines axis.moves else [])
          ++ s.driverLines gap (.stepper axis))) := by
  refine ⟨_, mem_stepperBlocks.mpr ⟨rendered, rfl⟩, ?_⟩
  simp only [List.cons_append, List.nil_append, List.append_assoc]

private theorem extruder_lines (gap : String) (s : Session) : ∃ rest, (s.extruderBlock gap).lines =
    header PrinterFunction.extruder.key :: (s.motorPinLines gap .extruder ++ rest) := by
  simp only [extruderBlock, List.cons_append, List.append_assoc]
  exact ⟨_, rfl⟩

private theorem bed_lines (gap : String) (assigned : (s.isAssigned .bedHeater || s.isAssigned .bedThermistor) = true) :
    ∃ b ∈ s.bedBlocks gap, ∃ rest, b.lines = header "heater_bed" ::
      entry "heater_pin" (s.pinOr gap .bedHeater .pin) :: entry "sensor_type" (s.settings.bedSensor.getD standardSensor)
        :: entry "sensor_pin" (s.pinOr gap .bedThermistor .pin) :: rest := by
  simp only [bedBlocks, assigned, if_true]
  exact ⟨_, List.mem_cons_self .., _, rfl⟩

private theorem fan_lines (gap : String) {kind : FanKind} (assigned : s.isAssigned (.fan kind) = true) :
    ∃ b ∈ s.fanBlocks gap kind, s.pin? ⟨.fan kind, .secondary⟩ .pin = none →
      b.lines = header (fanHeader kind) :: entry "pin" (s.pinOr gap (.fan kind) .pin) :: fanRuleLines kind := by
  refine ⟨_, mem_fanBlocks.mpr ⟨assigned, rfl⟩, fun single => ?_⟩
  simp only [single, List.cons_append, List.nil_append]

private theorem probe_lines (gap : String) (assigned : s.isAssigned .probe = true) :
    ∃ b ∈ s.probeBlocks gap, ∃ rest, b.lines =
      if s.settings.probeKind = some .bltouch then
        header "bltouch" :: entry "sensor_pin" (s.pinOr gap .probe .signal) :: rest
      else header "probe" :: entry "pin" (s.pinOr gap .probe .signal) :: rest := by
  have touch : s.settings.probeKind.getD .proximity = .bltouch ↔ s.settings.probeKind = some .bltouch := by
    cases s.settings.probeKind <;> simp
  simp only [probeBlocks, touch, assigned, if_true]
  by_cases kind : s.settings.probeKind = some .bltouch <;> by_cases homes : s.settings.zStop = .probe <;>
    simp only [kind, homes, if_true, if_false] <;> exact ⟨_, List.mem_cons_self .., _, rfl⟩

private theorem light_lines (gap : String) (assigned : s.isAssigned .caseLight = true) :
    ∃ b ∈ s.lightBlocks gap, ∃ rest, b.lines =
      header "output_pin caselight" :: entry "pin" (s.pinOr gap .caseLight .pin) :: rest := by
  simp only [lightBlocks, assigned, if_true]
  exact ⟨_, List.mem_cons_self .., _, rfl⟩

/-! ## Entries for pins -/

section
variable {heading key : String} {rest : List ConfigLine} {name : PinName} {motor : PrinterFunction} {a : HomingAxis}
  {kind : FanKind} (done : s.render mode = .ok r)
include done

/-- A pin that is held is shown by an entry that is made for it below the header of a block. -/
theorem shows_of_header (here : b ∈ s.configBlocks placeholderPin) (lines : b.lines = header heading :: rest)
    (held : ∃ v, s.pin? ⟨f, .primary⟩ name = some v)
    (listed : (key, s.pinOr placeholderPin f name) ∈ looseEntries rest) : s.Shows r f name heading key := by
  obtain ⟨v, held⟩ := held
  rw [pinOr, held, Option.getD_some] at listed
  exact ⟨v, held, _, mem_sections done here (mem_sections_of_header lines), rfl, listed⟩

variable (accepted : c.Accepted) (sound : s.Sound c)
include accepted sound

private theorem showsMotor_of_header (here : b ∈ s.configBlocks placeholderPin)
    (lines : b.lines = header motor.key :: (s.motorPinLines placeholderPin motor ++ rest))
    (sort : motor.category = .motor) (assigned : s.isAssigned motor = true) : s.ShowsMotor r motor := by
  have held (name : PinName) (main : name ∈ Category.mainPins .motor) : ∃ v, s.pin? ⟨motor, .primary⟩ name = some v :=
    exists_main_pin accepted sound assigned (sort ▸ main)
  refine ⟨shows_of_header done here lines (held .step (by decide)) ?_,
    shows_of_header done here lines (held .dir (by decide)) ?_,
    shows_of_header done here lines (held .enable (by decide)) ?_⟩
  all_goals simp [motorPinLines, looseEntries]

private theorem covers_stepper {axis : Axis} (assigned : s.isAssigned (.stepper axis) = true) :
    s.ShowsMotor r (.stepper axis) := by
  obtain ⟨b, own, lines⟩ := stepper_lines placeholderPin (.inr assigned)
  exact showsMotor_of_header done accepted sound (mem_of_stepper own) lines rfl assigned

private theorem covers_extruder (assigned : s.isAssigned .extruder = true) : s.ShowsMotor r .extruder := by
  obtain ⟨rest, lines⟩ := extruder_lines placeholderPin s
  exact showsMotor_of_header done accepted sound mem_of_extruder lines rfl assigned

/-- A switch is the endstop of its axis, unless the axis homes against the probe. -/
theorem covers_endstop (assigned : s.isAssigned (.endstop a) = true) :
    if a = .z ∧ s.settings.zStop = .probe then
      ∃ sec ∈ r.sections, sec.name = (PrinterFunction.stepper .z).key ∧ ("endstop_pin", probeEndstop) ∈ sec.entries
    else s.Shows r (.endstop a) .pin (PrinterFunction.stepper a.motor).key "endstop_pin" := by
  obtain ⟨b, own, lines⟩ := stepper_lines (s := s) placeholderPin (.inl a.isPrimary_motor)
  split_ifs with homes
  · have source : s.homingSource a = .probe := homingSource_eq_probe.mpr homes
    obtain ⟨rfl, _⟩ := homes
    refine ⟨_, mem_sections done (mem_of_stepper own) (mem_sections_of_header lines), rfl, ?_⟩
    simp [motorPinLines, looseEntries, count, endstopLines, source, probeEndstop]
  · obtain ⟨v, held⟩ := exists_main_pin accepted sound assigned (List.mem_singleton.mpr rfl)
    have source : s.homingSource a = .switch v := by simp only [homingSource, if_neg homes, held]
    refine shows_of_header done (mem_of_stepper own) lines ⟨v, held⟩ ?_
    simp [motorPinLines, looseEntries, count, endstopLines, source, pinOr, held]

private theorem covers_fan (assigned : s.isAssigned (.fan kind) = true) (single : s.port? ⟨.fan kind, .secondary⟩ = none) :
    s.Shows r (.fan kind) .pin (fanHeader kind) "pin" := by
  have second : s.pin? ⟨.fan kind, .secondary⟩ .pin = none := by
    have unwired : s.wiring.get? ⟨.fan kind, .secondary⟩ = none := Option.map_eq_none_iff.mp single
    simp only [pin?, pins?, unwired, Option.map_none, Option.bind_none]
  obtain ⟨b, own, lines⟩ := fan_lines placeholderPin assigned
  have held := exists_main_pin accepted sound assigned (List.mem_singleton.mpr rfl)
  exact shows_of_header done (mem_of_fan own) (lines second) held (List.mem_cons_self ..)

/-- A fan with two ports has a group of their pins. -/
theorem covers_pair {p : Address} (assigned : s.isAssigned (.fan kind) = true)
    (paired : s.port? ⟨.fan kind, .secondary⟩ = some p) :
    ∃ first second, s.pin? ⟨.fan kind, .primary⟩ .pin = some first ∧ s.pin? ⟨.fan kind, .secondary⟩ .pin = some second ∧
      ⟨"multi_pin " ++ pinGroup kind, [("pins", first ++ ", " ++ second)]⟩ ∈ r.sections := by
  have main : PinName.pin ∈ (PrinterFunction.fan kind).category.mainPins := List.mem_singleton.mpr rfl
  obtain ⟨second, held⟩ := exists_main_of_port? accepted sound paired main
  obtain ⟨b, own, _⟩ := fan_lines placeholderPin assigned
  obtain ⟨first, primary, inside⟩ := group_section accepted sound held own
  exact ⟨first, second, primary, held, mem_sections done (mem_of_fan own) inside⟩

private theorem covers_probe (assigned : s.isAssigned .probe = true) :
    if s.settings.probeKind = some .bltouch then s.Shows r .probe .signal "bltouch" "sensor_pin"
    else s.Shows r .probe .signal "probe" "pin" := by
  obtain ⟨b, own, rest, lines⟩ := probe_lines placeholderPin assigned
  have main : PinName.signal ∈ PrinterFunction.probe.category.mainPins := List.mem_singleton.mpr rfl
  have held := exists_main_pin accepted sound assigned main
  split_ifs at lines ⊢
  · exact shows_of_header done (mem_of_probe own) lines held (List.mem_cons_self ..)
  · exact shows_of_header done (mem_of_probe own) lines held (List.mem_cons_self ..)

/-- Each slot with a port is covered. -/
theorem covers_of_port? (paired : s.Paired) {k : SlotKey} {p : Address} (held : s.port? k = some p) : s.Covers r k := by
  obtain ⟨f, slot⟩ := k
  have pin (assigned : s.isAssigned f = true) (main : .pin ∈ f.category.mainPins) :=
    exists_main_pin accepted sound assigned main
  cases slot with
  | secondary =>
    obtain ⟨allows, assigned⟩ := paired f p held
    cases f with
    | fan kind => exact covers_pair done accepted sound assigned held
    | stepper _ | extruder | extruderHeater | extruderThermistor | bedHeater | bedThermistor | probe | endstop _
      | caseLight => cases allows
  | primary =>
    have assigned : s.isAssigned f = true := isAssigned_iff.mpr ⟨p, held⟩
    cases f with
    | stepper axis => exact covers_stepper done accepted sound assigned
    | extruder => exact covers_extruder done accepted sound assigned
    | extruderHeater =>
      refine shows_of_header done mem_of_extruder rfl (pin assigned (by decide)) ?_
      simp [motorPinLines, looseEntries, count]
    | extruderThermistor =>
      refine shows_of_header done mem_of_extruder rfl (pin assigned (by decide)) ?_
      simp [motorPinLines, looseEntries, count]
    | bedHeater =>
      obtain ⟨b, own, rest, lines⟩ := bed_lines (s := s) placeholderPin (by simp [assigned])
      exact shows_of_header done (mem_of_bed own) lines (pin assigned (by decide)) (by simp [looseEntries])
    | bedThermistor =>
      obtain ⟨b, own, rest, lines⟩ := bed_lines (s := s) placeholderPin (by simp [assigned])
      exact shows_of_header done (mem_of_bed own) lines (pin assigned (by decide)) (by simp [looseEntries])
    | fan kind => exact covers_fan done accepted sound assigned
    | probe => exact covers_probe done accepted sound assigned
    | endstop a => exact covers_endstop done accepted sound assigned
    | caseLight =>
      obtain ⟨b, own, rest, lines⟩ := light_lines placeholderPin assigned
      exact shows_of_header done (mem_of_light own) lines (pin assigned (by decide)) (List.mem_cons_self ..)

end

/-- In every rendering of a restored session each slot with a port is covered, and the sections of a part are in the
file of the toolboard exactly if the part is on the toolboard. -/
theorem render_covers {c : Catalog} (accepted : c.Accepted) (d : Document) {mode : RenderMode} {r : Rendered}
    (done : (restore c d).1.render mode = .ok r) :
    (∀ k p, (restore c d).1.port? k = some p → (restore c d).1.Covers r k) ∧
      ∀ file ∈ r.files, ∀ f, ∀ name ∈ partNames f, name ∈ sectionNames file.2 →
        (file.1 = .toolboard ↔ (restore c d).1.AtToolboard f) := by
  constructor
  · intro k p held
    exact covers_of_port? done accepted (restore_sound c d) (restore_paired c d) held
  · exact fun file inside f name own named => part_filed done inside named own

/-- A fan with its first port on the toolboard and its second one on the mainboard. -/
def splitFan : Document :=
  { Document.empty with
    boards := (Table.empty.insert .mainboard "btt-octopus-v1.1").insert .toolboard "btt-ebb36-v1.2"
    records :=
      [⟨.fan .partCooling, .primary, .toolboard, "FAN1"⟩, ⟨.fan .partCooling, .secondary, .mainboard, "FAN0"⟩] }

/-- A fan with a port on each board. -/
theorem splitFan_covered : ∃ r, (restore Catalog.builtin splitFan).1.render .placeholder = .ok r ∧
    (∃ first second, ⟨"multi_pin part_fan_pins", [("pins", first ++ ", " ++ second)]⟩ ∈ r.sections) ∧
    ∀ file ∈ r.files, "multi_pin part_fan_pins" ∈ sectionNames file.2 → file.1 = .toolboard := by
  have outcome : (restore Catalog.builtin splitFan).1.port? ⟨.fan .partCooling, .primary⟩ = some ⟨.toolboard, "FAN1"⟩ ∧
      (restore Catalog.builtin splitFan).1.port? ⟨.fan .partCooling, .secondary⟩ = some ⟨.mainboard, "FAN0"⟩ ∧
      (restore Catalog.builtin splitFan).1.board? .toolboard = some "btt-ebb36-v1.2" := by
    decide +kernel
  obtain ⟨primary, secondary, selected⟩ := outcome
  obtain ⟨covered, filed⟩ :=
    render_covers Catalog.accepted_builtin splitFan (show (restore _ _).1.render .placeholder = _ from rfl)
  obtain ⟨first, second, _, _, inside⟩ := covered _ _ secondary
  refine ⟨_, rfl, ⟨first, second, inside⟩, fun file listed named => ?_⟩
  have placed : (restore Catalog.builtin splitFan).1.AtToolboard (.fan .partCooling) :=
    ⟨⟨_, selected⟩, .inl ⟨_, primary, rfl⟩⟩
  exact (filed file listed (.fan .partCooling) _ (by decide) named).mpr placed

end Session

end PrinterWiring
