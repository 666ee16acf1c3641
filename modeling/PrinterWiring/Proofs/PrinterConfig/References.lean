import PrinterWiring.Proofs.PrinterConfig.Sections
import PrinterWiring.Proofs.PrinterConfig.Strict
import PrinterWiring.Proofs.Settings.Texts

/-!
# References between sections

Some entries refer to what another section sets up: the stall line of a driver, the probe, a group of pins, the
controller of the toolboard, the heater of the extruder. In every rendering of a restored session, strict or not, what
is referred to is there (`render_intact`). The text in front of the colon tells references from pins, since a pin has
only marks and the name of the toolboard there.
-/

namespace PrinterWiring

open ConfigLine

/-- The text of a pin of a port. -/
def IsPinText (v : String) : Prop := ∃ role raw m, isRawPin raw = true ∧ v = pinText role raw m

/-- Whether a section sets up a probe. -/
def ConfigSection.isProbe (sec : ConfigSection) : Bool := sec.name = "probe" || sec.name = "bltouch"

/-- A configuration in which what is referred to is there: for each stall line the driver with its pin, in the same
file; for a probe that is homed against exactly one section that sets it up, and those that home and level with it; for
each group its two pins, in the same file; for pins of the toolboard its controller, in the file of the toolboard, which
is included exactly if there is one; and for each heater that of the extruder. -/
structure Rendered.Intact (r : Rendered) : Prop where
  stall : ∀ file ∈ r.files, ∀ d motor, entry "endstop_pin" (stallEndstop d motor) ∈ file.2 →
    ∃ sec ∈ PrinterWiring.sections file.2, sec.name = d.name ++ " " ++ motor.key ∧ ∃ v, ("diag_pin", v) ∈ sec.entries
  probe : ∀ file ∈ r.files, entry "endstop_pin" probeEndstop ∈ file.2 →
    r.sections.countP ConfigSection.isProbe = 1 ∧ (∃ sec ∈ r.sections, sec.name = "safe_z_home") ∧
      ∃ sec ∈ r.sections, sec.name = "bed_mesh"
  group : ∀ file ∈ r.files, ∀ g, entry "pin" (groupPin g) ∈ file.2 → ∃ first second, IsPinText first ∧
    IsPinText second ∧ ⟨"multi_pin " ++ g, [("pins", first ++ ", " ++ second)]⟩ ∈ PrinterWiring.sections file.2
  toolboard : ∀ file ∈ r.files, ∀ key value, entry key value ∈ file.2 → key ∈ pinKeys → OnToolboard value →
    (∃ lines, (.toolboard, lines) ∈ r.files ∧ "mcu toolboard" ∈ sectionNames lines) ∧
      ∃ lines, (.printer, lines) ∈ r.files ∧ includeName ∈ sectionNames lines
  included : (∃ lines, (.printer, lines) ∈ r.files ∧ includeName ∈ sectionNames lines) ↔
    ∃ lines, (.toolboard, lines) ∈ r.files
  heater : ∀ file ∈ r.files, ∀ v, entry "heater" v ∈ file.2 →
    v = "extruder" ∧ ∃ sec ∈ r.sections, sec.name = "extruder" ∧ ∃ pin, ("heater_pin", pin) ∈ sec.entries

/-! ## What stands in front of the colon -/

private theorem Driver.not_mem_name (d : Driver) : ':' ∉ d.name.toList ∧ '_' ∉ d.name.toList := by cases d <;> decide

/-- The underscore after the name of a driver is the first one. -/
theorem splitFirst?_joined (d : Driver) (motor : PrinterFunction) :
    Text.splitFirst? '_' (d.name ++ "_" ++ motor.key) = some (d.name, motor.key) :=
  Text.splitFirst?_append d.not_mem_name.2

private theorem front?_stallEndstop (d : Driver) (motor : PrinterFunction) :
    Text.front? (stallEndstop d motor) = some (d.name ++ "_" ++ motor.key) := by
  rw [stallEndstop, show ":virtual_endstop" = ":" ++ "virtual_endstop" by decide, ← String.append_assoc]
  refine Text.front?_append ?_
  simp [d.not_mem_name.1, motor.not_mem_key]

private theorem front?_groupPin (g : String) : Text.front? (groupPin g) = some "multi_pin" := by
  rw [groupPin, show "multi_pin:" = "multi_pin" ++ ":" by decide]
  exact Text.front?_append (by decide)

private theorem stallEndstop_ne_probeEndstop (d : Driver) (motor : PrinterFunction) :
    stallEndstop d motor ≠ probeEndstop := by
  intro same
  have front := congrArg Text.front? same
  rw [front?_stallEndstop, show Text.front? probeEndstop = some "probe" by decide, Option.some.injEq] at front
  have cut := splitFirst?_joined d motor
  rw [front, show Text.splitFirst? '_' "probe" = none by decide] at cut
  cases cut

/-- A driver and a motor are known by the endstop that they are. -/
theorem stallEndstop_inj {d d' : Driver} {motor motor' : PrinterFunction}
    (same : stallEndstop d motor = stallEndstop d' motor') : d = d' ∧ motor = motor' := by
  have front := congrArg Text.front? same
  rw [front?_stallEndstop, front?_stallEndstop, Option.some.injEq] at front
  have parts := congrArg (Text.splitFirst? '_') front
  rw [splitFirst?_joined, splitFirst?_joined, Option.some.injEq, Prod.mk.injEq] at parts
  exact ⟨Driver.name_injective parts.1, PrinterFunction.key_injective parts.2⟩

/-- What may stand in front of the colon of a pin. -/
def pinFronts : List (Option String) :=
  [none, some "toolboard", some "^toolboard", some "!toolboard", some "^!toolboard"]

private theorem front?_mem_pinFronts {v : String} (pin : IsPinText v) : Text.front? v ∈ pinFronts := by
  obtain ⟨role, raw, ⟨pullup, invert⟩, valid, rfl⟩ := pin
  rw [front?_pinText valid]
  cases role <;> cases pullup <;> cases invert <;> decide

/-- Endstops of drivers, probes and groups are no pins. -/
theorem not_isPinText_stallEndstop (d : Driver) (motor : PrinterFunction) : ¬ IsPinText (stallEndstop d motor) := by
  intro pin
  have front := front?_mem_pinFronts pin
  rw [front?_stallEndstop] at front
  have cut : ∀ front ∈ pinFronts, ∀ s, front = some s → Text.splitFirst? '_' s = none := by
    simp only [pinFronts, List.forall_mem_cons, Option.some.injEq, forall_eq', reduceCtorEq, false_imp_iff,
      implies_true, true_and]
    decide
  cases (splitFirst?_joined d motor).symm.trans (cut _ front _ rfl)

private theorem not_isPinText_probeEndstop : ¬ IsPinText probeEndstop := by
  intro pin
  exact absurd (front?_mem_pinFronts pin) (by decide)

private theorem not_isPinText_groupPin (g : String) : ¬ IsPinText (groupPin g) := by
  intro pin
  have front := front?_mem_pinFronts pin
  rw [front?_groupPin] at front
  exact absurd front (by decide)

namespace Session

variable {c : Catalog} {s : Session} {b : ConfigBlock} {key value : String}

section
variable (accepted : c.Accepted) (sound : s.Sound c)
include accepted sound

private theorem isPinText_of_pin? {k : SlotKey} {name : PinName} {v : String} (held : s.pin? k name = some v) :
    IsPinText v := by
  obtain ⟨role, raw, m, _, valid, text⟩ := exists_text_of_pin? accepted sound held
  exact ⟨role, raw, m, valid, text⟩

/-- An endstop by stalling is named only where its axis stalls. -/
theorem stall_of_tells (tells : Tells placeholderPin s b key value) (named : key = "endstop_pin") {d : Driver}
    {motor : PrinterFunction} (same : value = stallEndstop d motor) :
    ∃ a, s.homingSource a = .stall d ∧ motor = .stepper a.motor ∧ b ∈ s.stepperBlocks placeholderPin a.motor := by
  cases tells with
  | pin _ held => exact absurd (same ▸ isPinText_of_pin? accepted sound held) (not_isPinText_stallEndstop d motor)
  | gap _ =>
    have front := front?_stallEndstop d motor
    rw [← same, show Text.front? placeholderPin = none by decide] at front
    cases front
  | @stall a d' source here =>
    obtain ⟨rfl, rfl⟩ := stallEndstop_inj same
    exact ⟨a, source, rfl, here⟩
  | probe _ => exact absurd same.symm (stallEndstop_ne_probeEndstop d motor)
  | group _ _ => exact absurd named (by decide)
  | pair _ => exact absurd named (by decide)
  | heater => exact absurd named (by decide)

/-- The probe is named as an endstop only where it is set to be one. -/
theorem probe_of_tells (tells : Tells placeholderPin s b key value) (named : key = "endstop_pin")
    (same : value = probeEndstop) : s.settings.zStop = .probe := by
  cases tells with
  | pin _ held => exact absurd (same ▸ isPinText_of_pin? accepted sound held) not_isPinText_probeEndstop
  | gap _ => exact absurd same (by decide)
  | stall _ _ => exact absurd same (stallEndstop_ne_probeEndstop _ _)
  | probe source => exact (homingSource_eq_probe.mp source).2
  | group _ _ => exact absurd named (by decide)
  | pair _ => exact absurd named (by decide)
  | heater => exact absurd named (by decide)

/-- A group of pins is named only where a fan has two ports. -/
theorem group_of_tells (tells : Tells placeholderPin s b key value) (named : key = "pin") {g : String}
    (same : value = groupPin g) :
    ∃ kind second, s.pin? ⟨.fan kind, .secondary⟩ .pin = some second ∧ g = pinGroup kind ∧
      b ∈ s.fanBlocks placeholderPin kind := by
  cases tells with
  | pin _ held => exact absurd (same ▸ isPinText_of_pin? accepted sound held) (not_isPinText_groupPin g)
  | gap _ =>
    have front := front?_groupPin g
    rw [← same, show Text.front? placeholderPin = none by decide] at front
    cases front
  | stall _ _ => exact absurd named (by decide)
  | probe _ => exact absurd named (by decide)
  | @group kind second held here => exact ⟨kind, second, held, ((String.append_right_inj _).mp same).symm, here⟩
  | pair _ => exact absurd named (by decide)
  | heater => exact absurd named (by decide)

/-- The toolboard is named only if it is selected. -/
theorem toolboard_of_tells (tells : Tells placeholderPin s b key value) (named : OnToolboard value) :
    s.hasBoard .toolboard = true := by
  have pin {k : SlotKey} {name : PinName} {v : String} (held : s.pin? k name = some v) (named : OnToolboard v) :
      s.hasBoard .toolboard = true := by
    obtain ⟨role, raw, m, selected, valid, rfl⟩ := exists_text_of_pin? accepted sound held
    exact onToolboard_pinText valid named ▸ selected
  cases tells with
  | pin _ held => exact pin held named
  | gap _ => exact absurd named (by decide)
  | @stall a d _ _ => cases d <;> cases a <;> exact absurd named (by decide +kernel)
  | probe _ => exact absurd named (by decide)
  | @group kind _ _ _ => cases kind <;> exact absurd named (by decide +kernel)
  | @pair kind second secondary =>
    rcases onToolboard_pair named with left | right
    · cases primary : s.pin? ⟨.fan kind, .primary⟩ .pin with
      | some first => exact pin primary (by simpa only [pinOr, primary, Option.getD_some] using left)
      | none =>
        rw [pinOr, primary, Option.getD_none] at left
        exact absurd left (by decide)
    · exact pin secondary right
  | heater => exact absurd named (by decide)

end

private theorem heater_of_tells (tells : Tells placeholderPin s b key value) (named : key = "heater") :
    value = "extruder" := by
  cases tells with
  | pin other _ => exact absurd named other
  | gap other => exact absurd named other
  | stall _ _ => exact absurd named (by decide)
  | probe _ => exact absurd named (by decide)
  | group _ _ => exact absurd named (by decide)
  | pair _ => exact absurd named (by decide)
  | heater => rfl

/-! ## What is referred to -/

variable {gap : String} {a : HomingAxis} {d : Driver} {kind : FanKind}

/-- The driver that an axis homes against has a section with its stall line. -/
theorem driver_section (source : s.homingSource a = .stall d) (here : b ∈ s.stepperBlocks gap a.motor) :
    ∃ sec ∈ sections b.lines, sec.name = d.name ++ " " ++ (PrinterFunction.stepper a.motor).key ∧
      ∃ v, ("diag_pin", v) ∈ sec.entries := by
  obtain ⟨⟨busPin, profile⟩, _, _, diag, held⟩ := stallDriver?_eq_some.mp (stallDriver?_of_stall source)
  obtain ⟨port, assigned⟩ := isAssigned_iff.mp (isAssigned_of_pin? held)
  have stalls : s.homesByStall (.stepper a.motor) = true := by simp [homesByStall, source]
  obtain ⟨rest, lines, plain, listed⟩ : ∃ rest, s.driverLines gap (.stepper a.motor) =
      header (d.name ++ " " ++ (PrinterFunction.stepper a.motor).key) :: rest ∧ (∀ name, header name ∉ rest) ∧
        ∃ v, entry "diag_pin" v ∈ rest := by
    simp only [driverLines, assigned, profile, stallLines, stalls, if_true, List.cons_append]
    refine ⟨_, rfl, ?_, s.pinOr gap (.stepper a.motor) .diag, ?_⟩
    · intro name
      split_ifs <;> simp [count]
    · simp
  obtain ⟨v, listed⟩ := listed
  rw [(mem_stepperBlocks.mp here).2, sections_append (headed_driverLines _), lines]
  exact ⟨_, List.mem_append_right _ (List.mem_cons_self ..), rfl, v, mem_looseEntries plain listed⟩

/-- A fan with two ports has a section with their pins. -/
theorem group_section (accepted : c.Accepted) (sound : s.Sound c) {second : String}
    (held : s.pin? ⟨.fan kind, .secondary⟩ .pin = some second) (here : b ∈ s.fanBlocks gap kind) :
    ∃ first, s.pin? ⟨.fan kind, .primary⟩ .pin = some first ∧
      ⟨"multi_pin " ++ pinGroup kind, [("pins", first ++ ", " ++ second)]⟩ ∈ sections b.lines := by
  obtain ⟨assigned, same⟩ := mem_fanBlocks.mp here
  have main : PinName.pin ∈ (PrinterFunction.fan kind).category.mainPins := List.mem_singleton.mpr rfl
  obtain ⟨first, primary⟩ := exists_main_pin accepted sound assigned main
  refine ⟨first, primary, ?_⟩
  rw [same, held]
  simp [sections, looseEntries, pinOr, primary]

private theorem extruder_section (gap : String) (s : Session) :
    ∃ sec ∈ sections (s.extruderBlock gap).lines, sec.name = "extruder" ∧ ∃ pin, ("heater_pin", pin) ∈ sec.entries := by
  refine ⟨_, List.mem_cons_self .., rfl, s.pinOr gap .extruderHeater .pin, ?_⟩
  simp [motorPinLines, looseEntries, count]

/-! ## Sections of the probe -/

private theorem countP_ordinary {blocks : List ConfigBlock} (plain : Ordinary blocks) :
    (blocks.flatMap fun b => sections b.lines).countP ConfigSection.isProbe = 0 := by
  rw [List.countP_eq_zero]
  intro sec inside probe
  obtain ⟨b, here, inside⟩ := List.mem_flatMap.mp inside
  have other := plain b here sec.name (List.mem_map_of_mem inside)
  simp only [ConfigSection.isProbe, Bool.or_eq_true, decide_eq_true_eq] at probe
  rcases probe with same | same <;> exact absurd (same ▸ other) (by decide)

private theorem ordinary_flatMap {κ : Type} {keys : List κ} {blocks : κ → List ConfigBlock}
    (plain : ∀ k, Ordinary (blocks k)) :
    Ordinary (keys.flatMap blocks) := by
  intro b here
  obtain ⟨k, _, here⟩ := List.mem_flatMap.mp here
  exact plain k b here

private theorem countP_title : (s.titleBlocks.flatMap fun b => sections b.lines).countP ConfigSection.isProbe = 0 := by
  unfold titleBlocks
  cases s.board? .toolboard <;> rfl

/-- Of a session that homes against a probe, exactly one section sets it up. -/
theorem countP_configBlocks (homes : s.settings.zStop = .probe) :
    ((s.configBlocks gap).flatMap fun b => sections b.lines).countP ConfigSection.isProbe = 1 := by
  have probe : ((s.probeBlocks gap).flatMap fun b => sections b.lines).countP ConfigSection.isProbe = 1 := by
    by_cases touch : s.settings.probeKind.getD .proximity = .bltouch <;>
      simp only [probeBlocks, homes, touch, if_true, if_false] <;> rfl
  simp only [configBlocks, List.flatMap_append, List.countP_append, countP_title, countP_ordinary ordinary_mcu,
    countP_ordinary ordinary_printer, countP_ordinary (ordinary_flatMap ordinary_stepper),
    countP_ordinary ordinary_extruder, countP_ordinary ordinary_bed, countP_ordinary (ordinary_flatMap ordinary_fan),
    probe, countP_ordinary ordinary_light]

/-! ## Inclusion of the toolboard -/

/-- Only the title includes a file, and only if a toolboard is selected. -/
theorem toolboard_of_include (here : b ∈ s.configBlocks gap) (inside : includeName ∈ sectionNames b.lines) :
    s.hasBoard .toolboard = true := by
  have refuted {blocks : List ConfigBlock} (plain : Ordinary blocks) (here : b ∈ blocks) :
      s.hasBoard .toolboard = true := absurd (List.mem_cons_self ..) (plain b here _ inside)
  simp only [configBlocks, List.mem_append] at here
  rcases here with (((((((title | mcu) | printer) | stepper) | extruder) | bed) | fan) | probe) | light
  · cases selected : s.board? .toolboard with
    | some id => exact Option.isSome_iff_exists.mpr ⟨id, selected⟩
    | none =>
      simp only [titleBlocks, selected, List.mem_singleton] at title
      subst title
      cases inside
  · exact refuted ordinary_mcu mcu
  · exact refuted ordinary_printer printer
  · exact refuted (ordinary_flatMap ordinary_stepper) stepper
  · exact refuted ordinary_extruder extruder
  · exact refuted ordinary_bed bed
  · exact refuted (ordinary_flatMap ordinary_fan) fan
  · have other : ∀ b' ∈ s.probeBlocks gap, includeName ∉ sectionNames b'.lines := by
      by_cases touch : s.settings.probeKind.getD .proximity = .bltouch <;>
        by_cases homes : s.settings.zStop = .probe <;> cases assigned : s.isAssigned .probe <;>
          simp [probeBlocks, touch, homes, assigned] <;> decide
    exact absurd inside (other b probe)
  · exact refuted ordinary_light light

variable {mode : RenderMode} {r : Rendered}

theorem mem_files (done : s.render mode = .ok r) {file : ConfigFile × List ConfigLine} :
    file ∈ r.files ↔ file.1 ∈ s.configFiles ∧ file.2 = linesOf file.1 (s.configBlocks placeholderPin) := by
  rw [files_of_render done, configLines, List.mem_map]
  constructor
  · rintro ⟨name, inside, rfl⟩
    exact ⟨inside, rfl⟩
  · rintro ⟨inside, lines⟩
    exact ⟨file.1, inside, Prod.ext rfl lines.symm⟩

/-- A line of a file is one of a block, and the file has the sections of the block. -/
theorem exists_block (done : s.render mode = .ok r) {file : ConfigFile × List ConfigLine} (inside : file ∈ r.files)
    {line : ConfigLine} (listed : line ∈ file.2) :
    ∃ b ∈ s.configBlocks placeholderPin, line ∈ b.lines ∧ ∀ sec ∈ sections b.lines, sec ∈ sections file.2 := by
  obtain ⟨_, lines⟩ := (mem_files done).mp inside
  rw [lines] at listed ⊢
  obtain ⟨b, here, same, listed⟩ := mem_linesOf.mp listed
  exact ⟨b, here, listed, fun sec own => same ▸ mem_sections_file here own⟩

theorem mem_sections (done : s.render mode = .ok r) (here : b ∈ s.configBlocks placeholderPin) {sec : ConfigSection}
    (own : sec ∈ sections b.lines) : sec ∈ r.sections :=
  (sections_perm done).mem_iff.mpr (List.mem_flatMap.mpr ⟨b, here, own⟩)

/-- The file of a block has its sections. -/
theorem exists_file (done : s.render mode = .ok r) (here : b ∈ s.configBlocks placeholderPin) {file : ConfigFile}
    (own : b.file = file) {name : String} (inside : name ∈ sectionNames b.lines) :
    ∃ lines, (file, lines) ∈ r.files ∧ name ∈ sectionNames lines := by
  subst own
  refine ⟨linesOf b.file (s.configBlocks placeholderPin), (mem_files done).mpr ⟨(stands_of_mem here).filed, rfl⟩, ?_⟩
  exact List.map_subset _ (fun _ own => mem_sections_file here own) inside

/-- If a toolboard is selected, it has a file with its controller, and the main file includes that. -/
theorem toolboard_files (done : s.render mode = .ok r) (selected : s.hasBoard .toolboard = true) :
    (∃ lines, (.toolboard, lines) ∈ r.files ∧ "mcu toolboard" ∈ sectionNames lines) ∧
      ∃ lines, (.printer, lines) ∈ r.files ∧ includeName ∈ sectionNames lines := by
  constructor
  · obtain ⟨b, here, file, inside⟩ : ∃ b ∈ s.mcuBlocks, b.file = .toolboard ∧
        "mcu toolboard" ∈ sectionNames b.lines := by
      simp only [mcuBlocks, selected, if_true]
      exact ⟨_, List.mem_cons_of_mem _ (List.mem_cons_self ..), rfl, List.mem_cons_self ..⟩
    exact exists_file done (by simp [configBlocks, here]) file inside
  · obtain ⟨id, named⟩ := Option.isSome_iff_exists.mp selected
    obtain ⟨b, here, file, inside⟩ : ∃ b ∈ s.titleBlocks, b.file = .printer ∧ includeName ∈ sectionNames b.lines := by
      simp only [titleBlocks, board?, named]
      exact ⟨_, List.mem_cons_self .., rfl, List.mem_cons_self ..⟩
    exact exists_file done (by simp [configBlocks, here]) file inside

/-- A session that homes against a probe sets it up once, and homes and levels with it. -/
theorem probe_sections (done : s.render mode = .ok r) (homes : s.settings.zStop = .probe) :
    r.sections.countP ConfigSection.isProbe = 1 ∧ (∃ sec ∈ r.sections, sec.name = "safe_z_home") ∧
      ∃ sec ∈ r.sections, sec.name = "bed_mesh" := by
  obtain ⟨b, here, safe, mesh⟩ : ∃ b ∈ s.probeBlocks placeholderPin,
      (∃ sec ∈ sections b.lines, sec.name = "safe_z_home") ∧ ∃ sec ∈ sections b.lines, sec.name = "bed_mesh" := by
    simp only [probeBlocks, homes, if_true]
    refine ⟨_, List.mem_cons_of_mem _ (List.mem_cons_self ..), ⟨_, List.mem_cons_self .., rfl⟩, ?_⟩
    exact ⟨_, List.mem_cons_of_mem _ (List.mem_cons_self ..), rfl⟩
  obtain ⟨sec, own, named⟩ := safe
  obtain ⟨sec', own', named'⟩ := mesh
  have shown {sec : ConfigSection} (own : sec ∈ sections b.lines) : sec ∈ r.sections :=
    mem_sections done (mem_of_probe here) own
  refine ⟨?_, ⟨sec, shown own, named⟩, sec', shown own', named'⟩
  rw [(sections_perm done).countP_eq]
  exact countP_configBlocks homes

/-- In every rendering of a restored session what is referred to is there. -/
theorem render_intact {c : Catalog} (accepted : c.Accepted) (d : Document) {mode : RenderMode} {r : Rendered}
    (done : (restore c d).1.render mode = .ok r) : r.Intact := by
  have sound := restore_sound c d
  generalize (restore c d).1 = s at done sound
  refine ⟨?stall, ?probe, ?group, ?toolboard, ?included, ?heater⟩
  case stall =>
    intro file inside d motor listed
    obtain ⟨b, here, listed, kept⟩ := exists_block done inside listed
    obtain ⟨a, source, rfl, here⟩ := stall_of_tells accepted sound (tells_of_mem here listed (by decide)) rfl rfl
    obtain ⟨sec, own, named, diag⟩ := driver_section source here
    exact ⟨sec, kept sec own, named, diag⟩
  case probe =>
    intro file inside listed
    obtain ⟨b, here, listed, _⟩ := exists_block done inside listed
    exact probe_sections done (probe_of_tells accepted sound (tells_of_mem here listed (by decide)) rfl rfl)
  case group =>
    intro file inside g listed
    obtain ⟨b, here, listed, kept⟩ := exists_block done inside listed
    obtain ⟨kind, second, held, rfl, here⟩ :=
      group_of_tells accepted sound (tells_of_mem here listed (by decide)) rfl rfl
    obtain ⟨first, primary, own⟩ := group_section accepted sound held here
    exact ⟨first, second, isPinText_of_pin? accepted sound primary, isPinText_of_pin? accepted sound held, kept _ own⟩
  case toolboard =>
    intro file inside key value listed named mentioned
    obtain ⟨b, here, listed, _⟩ := exists_block done inside listed
    have tells := tells_of_mem here listed (List.mem_cons_of_mem _ named)
    exact toolboard_files done (toolboard_of_tells accepted sound tells mentioned)
  case included =>
    constructor
    · rintro ⟨lines, inside, includes⟩
      obtain ⟨_, same⟩ := (mem_files done).mp inside
      rw [sectionNames, show lines = _ from same, sections_file, List.mem_map] at includes
      obtain ⟨sec, own, named⟩ := includes
      obtain ⟨b, here, own⟩ := List.mem_flatMap.mp own
      have selected := toolboard_of_include (List.mem_filter.mp here).1 (named ▸ List.mem_map_of_mem own)
      obtain ⟨lines', listed, _⟩ := (toolboard_files done selected).1
      exact ⟨lines', listed⟩
    · rintro ⟨lines, inside⟩
      exact (toolboard_files done (mem_configFiles.mp ((mem_files done).mp inside).1 rfl)).2
  case heater =>
    intro file inside v listed
    obtain ⟨b, here, listed, _⟩ := exists_block done inside listed
    refine ⟨heater_of_tells (tells_of_mem here listed (by decide)) rfl, ?_⟩
    obtain ⟨sec, own, named, pin⟩ := extruder_section placeholderPin s
    exact ⟨sec, mem_sections done mem_of_extruder own, named, pin⟩

/-- A printer with a toolboard, an axis that stalls and a pair of fans. -/
theorem toolboardPrinter_intact : ∃ r, (restore Catalog.builtin toolboardPrinter).1.render .strict = .ok r ∧ r.Intact ∧
    (∃ file ∈ r.files, entry "endstop_pin" (stallEndstop .tmc2209 (.stepper .x)) ∈ file.2) ∧
    (∃ file ∈ r.files, entry "endstop_pin" probeEndstop ∈ file.2) ∧
    (∃ file ∈ r.files, entry "pin" (groupPin (pinGroup .partCooling)) ∈ file.2) ∧
    ∃ file ∈ r.files, entry "sensor_pin" "^toolboard:PB8" ∈ file.2 := by
  have done := render_strict (s := (restore Catalog.builtin toolboardPrinter).1)
  rw [review_toolboardPrinter] at done
  refine ⟨_, done, render_intact Catalog.accepted_builtin toolboardPrinter done, ?_⟩
  decide +kernel

end Session

end PrinterWiring
