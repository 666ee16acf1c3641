import PrinterWiring.Proofs.PrinterConfig.Passages
import PrinterWiring.Proofs.Report.Printable
import PrinterWiring.Proofs.Report.Warnings

/-!
# Drivers of motors

The report and the configuration agree on the driver of each motor: either its section is there, with the pin over which
it is configured, or a remark below the motor says that there is none and a warning of the report does, or there is
nothing to say (`render_driver`).
-/

namespace PrinterWiring

open ConfigLine

/-- The name of the section of the driver of a motor. -/
def driverSection (d : Driver) (motor : PrinterFunction) : String := d.name ++ " " ++ motor.key

/-- The key of the entry for the pin over which a driver is configured. -/
def Driver.busKey (d : Driver) : String := if d.bus = .spi then "cs_pin" else "uart_pin"

/-- What a remark says about a driver that cannot be reached. -/
def driverRemark (d : Driver) (missing : PinName) (port : Address) : String :=
  s!"{d.name} driver not configured: {port.port} has no {missing.name} pin"

/-- Whether a line is a remark about a driver. -/
def isDriverRemark : ConfigLine → Bool
  | comment text => (Enumerated.all : List Driver).any fun d =>
    (d.name ++ " driver not configured: ").toList.isPrefixOf text.toList
  | _ => false

/-- The remarks about drivers below the header of a motor. -/
def Rendered.driverRemarks (r : Rendered) (motor : PrinterFunction) : List ConfigLine :=
  r.passages.flatMap fun p => if p.name = motor.key then p.lines.filter isDriverRemark else []

namespace Session

/-- A driver is reached: it is the one that is set, and the port of the motor wires the pin over which it is
configured. -/
def Reaches (c : Catalog) (s : Session) (motor : PrinterFunction) (d : Driver) : Prop :=
  s.settings.driver = some d ∧ s.isAssigned motor = true ∧
    ∃ bus, d.busPin? = some bus ∧ s.Wires c ⟨motor, .primary⟩ bus

/-- A driver is missed: it is the one that is set, and the port of the motor does not wire the pin over which it would
be configured. -/
def Misses (c : Catalog) (s : Session) (motor : PrinterFunction) (d : Driver) (bus : PinName) (port : Address) : Prop :=
  s.settings.driver = some d ∧ s.port? ⟨motor, .primary⟩ = some port ∧ d.busPin? = some bus ∧
    ¬ s.Wires c ⟨motor, .primary⟩ bus

/-- What a configuration and the report say about the driver of a motor. -/
structure ShowsDriver (c : Catalog) (s : Session) (r : Rendered) (motor : PrinterFunction) : Prop where
  once : ∀ d, (r.sections.map (·.name)).count (driverSection d motor) = 1 ↔ s.Reaches c motor d
  never : ∀ d, ¬ s.Reaches c motor d → driverSection d motor ∉ r.sections.map (·.name)
  carried : ∀ d, ∀ sec ∈ r.sections, sec.name = driverSection d motor →
    ∃ bus v, d.busPin? = some bus ∧ s.pin? ⟨motor, .primary⟩ bus = some v ∧ (d.busKey, v) ∈ sec.entries
  missed : ∀ d bus port, s.Misses c motor d bus port →
    (∀ d', driverSection d' motor ∉ r.sections.map (·.name)) ∧
      r.driverRemarks motor = [comment (driverRemark d bus port)] ∧
      (∃ p ∈ r.passages, p.name = motor.key ∧ p.lines.getLast? = some (comment (driverRemark d bus port))) ∧
      s.review.driverWarnings motor = [(Caution.driverUnreachable motor d bus port).message]
  otherwise : (∀ d bus port, ¬ s.Misses c motor d bus port) →
    r.driverRemarks motor = [] ∧ s.review.driverWarnings motor = []

variable {c : Catalog} {s : Session} {gap : String} {b : ConfigBlock} {motor : PrinterFunction} {mode : RenderMode}
  {r : Rendered} {d : Driver}

/-! ## Profiles -/

/-- A driver cannot be reached if the port of the motor lacks the pin of its bus. -/
theorem driverProfile_eq_unreachable {missing : PinName} :
    s.driverProfile motor = .unreachable d missing ↔
      s.settings.driver = some d ∧ d.busPin? = some missing ∧ s.pin? ⟨motor, .primary⟩ missing = none := by
  unfold driverProfile
  cases s.settings.driver with
  | none => simp
  | some d' =>
    simp only [Option.some.injEq]
    cases bus : d'.busPin? with
    | none =>
      simp only [reduceCtorEq, false_iff, not_and]
      rintro rfl
      simp [bus]
    | some name =>
      cases held : s.pin? ⟨motor, .primary⟩ name with
      | some busPin =>
        simp only [held, reduceCtorEq, false_iff, not_and]
        rintro rfl same
        cases bus.symm.trans same
        simp [held]
      | none =>
        simp only [held, DriverProfile.unreachable.injEq]
        constructor
        · rintro ⟨rfl, rfl⟩
          exact ⟨rfl, bus, held⟩
        · rintro ⟨rfl, bus', _⟩
          exact ⟨rfl, Option.some.inj (bus.symm.trans bus')⟩

private theorem misses_iff (sound : s.Sound c) {bus : PinName} {port : Address} :
    s.Misses c motor d bus port ↔
      s.port? ⟨motor, .primary⟩ = some port ∧ s.driverProfile motor = .unreachable d bus := by
  have unwired : ¬ s.Wires c ⟨motor, .primary⟩ bus ↔ s.pin? ⟨motor, .primary⟩ bus = none := by
    rw [wires_iff sound, Option.eq_none_iff_forall_ne_some, not_exists]
  rw [Misses, driverProfile_eq_unreachable, unwired]
  exact ⟨fun ⟨set, held, rest⟩ => ⟨held, set, rest⟩, fun ⟨held, set, rest⟩ => ⟨set, held, rest⟩⟩

private theorem reaches_iff (sound : s.Sound c) :
    s.Reaches c motor d ↔ ∃ v, s.driverProfile motor = .configured d v := by
  simp only [Reaches, driverProfile_eq_configured, wires_iff sound]
  constructor
  · rintro ⟨set, _, bus, named, v, held⟩
    exact ⟨v, set, bus, named, held⟩
  · rintro ⟨v, set, bus, named, held⟩
    exact ⟨set, isAssigned_of_pin? held, bus, named, v, held⟩

/-! ## Blocks of motors -/

/-- The blocks of a motor. -/
def motorBlocks (gap : String) (s : Session) : PrinterFunction → List ConfigBlock
  | .stepper axis => s.stepperBlocks gap axis
  | .extruder => [s.extruderBlock gap]
  | _ => []

private theorem isMotor_iff : isMotor motor = true ↔ motor = .extruder ∨ ∃ axis, motor = .stepper axis := by
  cases motor <;> simp [isMotor]

private theorem motorGroup_mem (sort : isMotor motor = true) :
    ⟨s.motorBlocks gap motor, motorNames motor⟩ ∈ groups gap s := by
  rcases isMotor_iff.mp sort with rfl | ⟨axis, rfl⟩
  · simp [groups, motorBlocks]
  · simp only [groups, motorBlocks, List.mem_append, List.mem_map]
    exact .inl (.inl (.inl (.inr ⟨axis, Enumerated.mem_all axis, rfl⟩)))

/-- A section with a name of a motor stands in a block of this motor. -/
theorem mem_motorBlocks (here : b ∈ s.configBlocks gap) (sort : isMotor motor = true) {name : String}
    (inside : name ∈ sectionNames b.lines) (own : name ∈ motorNames motor) : b ∈ s.motorBlocks gap motor :=
  mem_group (motorGroup_mem sort) here inside own

private theorem configBlocks_of_motor (here : b ∈ s.motorBlocks gap motor) (sort : isMotor motor = true) :
    b ∈ s.configBlocks gap :=
  blocks_groups ▸ List.mem_flatMap.mpr ⟨_, motorGroup_mem sort, here⟩

private theorem exists_motorBlock (gap : String) (sort : isMotor motor = true) (assigned : s.isAssigned motor = true) :
    ∃ b, b ∈ s.motorBlocks gap motor := by
  rcases isMotor_iff.mp sort with rfl | ⟨axis, rfl⟩
  · exact ⟨_, List.mem_singleton.mpr rfl⟩
  · exact ⟨_, mem_stepperBlocks.mpr ⟨.inr assigned, rfl⟩⟩

/-! ## What stands below a motor -/

@[simp] theorem isDriverRemark_entry {key value : String} : isDriverRemark (entry key value) = false := rfl

@[simp] theorem isDriverRemark_count {key : String} {n : Nat} : isDriverRemark (count key n) = false := rfl

private theorem isDriverRemark_driverRemark (d : Driver) (missing : PinName) (port : Address) :
    isDriverRemark (comment (driverRemark d missing port)) = true := by
  have text : driverRemark d missing port =
      d.name ++ " driver not configured: " ++ (port.port ++ " has no " ++ missing.name ++ " pin") := by
    show d.name ++ " driver not configured: " ++ port.port ++ " has no " ++ missing.name ++ " pin" = _
    simp only [String.append_assoc]
  refine List.any_eq_true.mpr ⟨d, Enumerated.mem_all d, List.isPrefixOf_iff_prefix.mpr ?_⟩
  rw [text]
  exact ⟨_, String.toList_append.symm⟩

private theorem remarks_endstopLines {a : HomingAxis} : (s.endstopLines gap a).filter isDriverRemark = [] := by
  unfold endstopLines
  cases s.homingSource a <;> simp

private theorem remarks_travelLines {a : HomingAxis} : (s.travelLines a).filter isDriverRemark = [] := by
  have size : isDriverRemark (comment "bed size not set, using default") = false := by decide
  cases a with
  | x | y =>
    simp only [travelLines, rangeLines]
    split_ifs <;> simp [size]
  | z =>
    simp only [travelLines]
    split_ifs <;> simp

/-- A block of a motor is its own section, in which there are no remarks about drivers, and what is said of its
driver. -/
theorem motorBlock_lines (here : b ∈ s.motorBlocks gap motor) (sort : isMotor motor = true) :
    ∃ own, b.lines = header motor.key :: (own ++ s.driverLines gap motor) ∧ sectionNames own = [] ∧
      own.filter isDriverRemark = [] := by
  rcases isMotor_iff.mp sort with rfl | ⟨axis, rfl⟩
  · rw [List.mem_singleton.mp here]
    refine ⟨_, rfl, by simp, ?_⟩
    simp [motorPinLines]
  · rw [(mem_stepperBlocks.mp here).2]
    refine ⟨_, rfl, by simp, ?_⟩
    simp only [motorPinLines]
    split_ifs <;> simp [remarks_endstopLines, remarks_travelLines]

private theorem driverSection_ne_key (d : Driver) (motor : PrinterFunction) : driverSection d motor ≠ motor.key := by
  have solid : ∀ f : PrinterFunction, ' ' ∉ f.key.toList := by decide +kernel
  intro same
  exact solid motor (same ▸ by simp [driverSection])

/-- The lines about a driver that is configured: a section, and its first entry is the pin over which it is. -/
theorem driverLines_of_configured (gap : String) {port : Address} {v : String}
    (held : s.port? ⟨motor, .primary⟩ = some port) (profile : s.driverProfile motor = .configured d v) :
    ∃ rest, s.driverLines gap motor = header (driverSection d motor) :: entry d.busKey v :: rest ∧
      sectionNames rest = [] := by
  simp only [driverLines, held, profile]
  exact ⟨_, rfl, by simp⟩

/-- A section among the lines of a driver is its own, and has the pin of its bus. -/
theorem sections_driverLines {sec : ConfigSection} (inside : sec ∈ sections (s.driverLines gap motor)) :
    ∃ d v, s.driverProfile motor = .configured d v ∧ sec.name = driverSection d motor ∧
      (d.busKey, v) ∈ sec.entries := by
  cases held : s.port? ⟨motor, .primary⟩ with
  | none =>
    simp only [driverLines, held] at inside
    cases inside
  | some port =>
    cases profile : s.driverProfile motor with
    | basic | unreachable _ _ =>
      simp only [driverLines, held, profile] at inside
      cases inside
    | configured d v =>
      obtain ⟨rest, lines, plain⟩ := driverLines_of_configured gap held profile
      have none : sections rest = [] := List.map_eq_nil_iff.mp plain
      have only : sec = ⟨driverSection d motor, looseEntries (entry d.busKey v :: rest)⟩ := by
        rw [lines] at inside
        simpa [sections, none] using inside
      rw [only]
      exact ⟨d, v, rfl, rfl, List.mem_cons_self ..⟩

private theorem driverSection_mem (gap : String) {v : String} (profile : s.driverProfile motor = .configured d v) :
    driverSection d motor ∈ sectionNames (s.driverLines gap motor) := by
  obtain ⟨_, name, _, held⟩ := driverProfile_eq_configured.mp profile
  obtain ⟨port, assigned⟩ := isAssigned_iff.mp (isAssigned_of_pin? held)
  obtain ⟨rest, lines, _⟩ := driverLines_of_configured gap assigned profile
  rw [lines]
  exact List.mem_cons_self ..

/-- In front of the section of a driver stands at most the remark that it cannot be reached. -/
theorem lead_driverLines : lead (s.driverLines gap motor) = match s.port? ⟨motor, .primary⟩, s.driverProfile motor with
    | some port, .unreachable d missing => [comment (driverRemark d missing port)]
    | _, _ => [] := by
  unfold driverLines
  cases s.port? ⟨motor, .primary⟩ with
  | none => rfl
  | some port => cases s.driverProfile motor <;> rfl

/-! ## Renderings -/

section
variable (done : s.render mode = .ok r) (sort : isMotor motor = true)
include done sort

/-- A section with the name of the driver of a motor is the one that is made for it. -/
theorem sections_of_driver {sec : ConfigSection} (inside : sec ∈ r.sections)
    (named : sec.name = driverSection d motor) : sec ∈ sections (s.driverLines placeholderPin motor) := by
  obtain ⟨b, here, own⟩ := List.mem_flatMap.mp ((sections_perm done).mem_iff.mp inside)
  have titled : driverSection d motor ∈ sectionNames b.lines := named ▸ List.mem_map_of_mem own
  have listed : driverSection d motor ∈ motorNames motor :=
    List.mem_cons_of_mem _ (List.mem_map.mpr ⟨d, Enumerated.mem_all d, rfl⟩)
  obtain ⟨rest, lines, plain, _⟩ := motorBlock_lines (mem_motorBlocks here sort titled listed) sort
  have none : sections rest = [] := List.map_eq_nil_iff.mp plain
  rw [lines, sections, sections_append (headed_driverLines motor), none, List.nil_append, List.mem_cons] at own
  refine own.resolve_left ?_
  rintro rfl
  exact driverSection_ne_key d motor named.symm

/-- The section of the driver of a motor is there exactly if the driver is configured. -/
theorem driverSection_mem_iff :
    driverSection d motor ∈ r.sections.map (·.name) ↔ ∃ v, s.driverProfile motor = .configured d v := by
  constructor
  · intro inside
    obtain ⟨sec, inside, named⟩ := List.mem_map.mp inside
    obtain ⟨d', v, profile, titled, _⟩ := sections_driverLines (sections_of_driver done sort inside named)
    have same : d'.name = d.name := by
      have texts := titled.symm.trans named
      rw [driverSection, driverSection, String.append_left_inj, String.append_left_inj] at texts
      exact texts
    rw [Driver.name_injective same] at profile
    exact ⟨v, profile⟩
  · rintro ⟨v, profile⟩
    obtain ⟨_, name, _, held⟩ := driverProfile_eq_configured.mp profile
    obtain ⟨b, here⟩ := exists_motorBlock placeholderPin sort (isAssigned_of_pin? held)
    obtain ⟨own, lines, plain, _⟩ := motorBlock_lines here sort
    obtain ⟨sec, inside, named⟩ := List.mem_map.mp (driverSection_mem placeholderPin profile)
    refine List.mem_map.mpr ⟨sec, mem_sections done (configBlocks_of_motor here sort) ?_, named⟩
    rw [lines, sections, sections_append (headed_driverLines motor)]
    exact List.mem_cons_of_mem _ (List.mem_append_right _ inside)

/-- What stands below the header of a motor. -/
theorem motor_passage {p : Passage} (inside : p ∈ r.passages) (named : p.name = motor.key) :
    ∃ own, p.lines = own ++ lead (s.driverLines placeholderPin motor) ∧ own.filter isDriverRemark = [] := by
  obtain ⟨b, here, listed⟩ := (mem_passages done).mp inside
  have titled : p.name ∈ sectionNames b.lines := passages_names b.lines ▸ List.mem_map_of_mem listed
  rw [named] at titled
  obtain ⟨own, lines, plain, remarks⟩ := motorBlock_lines (mem_motorBlocks here sort titled List.mem_cons_self) sort
  rw [lines, passages, passages_of_plain plain, lead_of_plain plain, List.mem_cons] at listed
  rcases listed with rfl | driver
  · exact ⟨own, rfl, remarks⟩
  · have titled : p.name ∈ sectionNames (s.driverLines placeholderPin motor) :=
      passages_names (s.driverLines placeholderPin motor) ▸ List.mem_map_of_mem driver
    obtain ⟨sec, inside, same⟩ := List.mem_map.mp titled
    obtain ⟨d, _, _, titled, _⟩ := sections_driverLines inside
    exact absurd (titled.symm.trans (same.trans named)) (driverSection_ne_key d motor)

private theorem exists_motor_passage (assigned : s.isAssigned motor = true) : ∃ p ∈ r.passages, p.name = motor.key := by
  obtain ⟨b, here⟩ := exists_motorBlock placeholderPin sort assigned
  obtain ⟨own, lines, _⟩ := motorBlock_lines here sort
  have listed : ⟨motor.key, lead (own ++ s.driverLines placeholderPin motor)⟩ ∈ passages b.lines := by
    rw [lines]
    exact List.mem_cons_self ..
  exact ⟨_, (mem_passages done).mpr ⟨b, configBlocks_of_motor here sort, listed⟩, rfl⟩

/-- The remarks about the driver of a motor with a port are those that are made for it. -/
theorem driverRemarks_of_assigned (assigned : s.isAssigned motor = true) :
    r.driverRemarks motor = (lead (s.driverLines placeholderPin motor)).filter isDriverRemark := by
  obtain ⟨p, inside, named⟩ := exists_motor_passage done sort assigned
  obtain ⟨own, lines, remarks⟩ := motor_passage done sort inside named
  have apart : (r.passages.map (·.name)).Nodup := r.passages_names ▸ names_nodup done
  rw [Rendered.driverRemarks, flatMap_eq_of_nodup apart.of_map inside, if_pos named, lines, List.filter_append, remarks,
    List.nil_append]
  intro p' inside' other
  refine if_neg fun named' => other ?_
  exact List.inj_on_of_nodup_map apart inside' inside (named'.trans named.symm)

/-- Where nothing is said of the driver of a motor, there are no remarks about it. -/
theorem driverRemarks_eq_nil (nothing : lead (s.driverLines placeholderPin motor) = []) :
    r.driverRemarks motor = [] := by
  refine List.flatMap_eq_nil_iff.mpr fun p inside => ?_
  by_cases named : p.name = motor.key
  · obtain ⟨own, lines, remarks⟩ := motor_passage done sort inside named
    rw [if_pos named, lines, nothing, List.append_nil, remarks]
  · rw [if_neg named]

end

/-- In every rendering of a restored session, the driver of a motor has one section, with the pin over which it is
configured, if it is reached, and else none. Exactly if it is missed, the last line below the motor remarks it and one
warning of the report tells it. -/
theorem render_driver (c : Catalog) (d : Document) {mode : RenderMode} {r : Rendered}
    (done : (restore c d).1.render mode = .ok r) (motor : PrinterFunction) (sort : isMotor motor = true) :
    (restore c d).1.ShowsDriver c r motor := by
  have sound := restore_sound c d
  generalize (restore c d).1 = s at done sound
  have shown (d : Driver) : driverSection d motor ∈ r.sections.map (·.name) ↔ s.Reaches c motor d := by
    rw [driverSection_mem_iff done sort, reaches_iff sound]
  refine ⟨?once, ?never, ?carried, ?missed, ?otherwise⟩
  case once =>
    intro d
    rw [← shown]
    constructor
    · intro one
      exact List.count_pos_iff.mp (by omega)
    · exact List.count_eq_one_of_mem (names_nodup done)
  case never =>
    intro d missed inside
    exact missed ((shown d).mp inside)
  case carried =>
    intro d sec inside named
    have reached : ∃ v, s.driverProfile motor = .configured d v :=
      (driverSection_mem_iff done sort).mp (named ▸ List.mem_map_of_mem inside)
    obtain ⟨d', v, profile, _, listed⟩ := sections_driverLines (sections_of_driver done sort inside named)
    obtain ⟨v', profile'⟩ := reached
    cases profile.symm.trans profile'
    obtain ⟨_, bus, busPin, held⟩ := driverProfile_eq_configured.mp profile
    exact ⟨bus, v, busPin, held, listed⟩
  case missed =>
    intro d bus port missed
    obtain ⟨held, profile⟩ := (misses_iff sound).mp missed
    have assigned : s.isAssigned motor = true := isAssigned_iff.mpr ⟨port, held⟩
    have said : lead (s.driverLines placeholderPin motor) = [comment (driverRemark d bus port)] := by
      rw [lead_driverLines, held, profile]
    refine ⟨?_, ?_, ?_, ?_⟩
    · intro d' inside
      obtain ⟨v, profile'⟩ := (driverSection_mem_iff done sort).mp inside
      cases profile.symm.trans profile'
    · rw [driverRemarks_of_assigned done sort assigned, said, List.filter_singleton, isDriverRemark_driverRemark]
      rfl
    · obtain ⟨p, inside, named⟩ := exists_motor_passage done sort assigned
      obtain ⟨own, lines, _⟩ := motor_passage done sort inside named
      refine ⟨p, inside, named, ?_⟩
      rw [lines, said, List.getLast?_concat]
    · rw [driverWarnings_review sort, held, profile]
  case otherwise =>
    intro other
    have quiet : ∀ d bus port, s.port? ⟨motor, .primary⟩ = some port → s.driverProfile motor ≠ .unreachable d bus :=
      fun d bus port held profile => other d bus port ((misses_iff sound).mpr ⟨held, profile⟩)
    constructor
    · refine driverRemarks_eq_nil done sort ?_
      rw [lead_driverLines]
      split
      · next port d bus held profile => exact absurd profile (quiet d bus port held)
      · rfl
    · rw [driverWarnings_review sort]
      split
      · next port d bus held profile => exact absurd profile (quiet d bus port held)
      · rfl

/-- A printer with its extruder on a toolboard, on a port that does not wire the pin over which its driver would be
configured. -/
def mixedPrinter : Document :=
  { Document.empty with
    boards := (Table.empty.insert .mainboard "btt-octopus-v1.1").insert .toolboard "btt-ebb36-v1.2"
    records := [⟨.stepper .x, .primary, .mainboard, "MOTOR0"⟩, ⟨.extruder, .primary, .toolboard, "MOTOR"⟩]
    settings := { Settings.standard with driver := some .tmc5160 } }

/-- A printer with a driver that can be reached and one that cannot. -/
theorem mixedPrinter_drivers : ∃ r, (restore Catalog.builtin mixedPrinter).1.render .placeholder = .ok r ∧
    (r.sections.map (·.name)).count "tmc5160 stepper_x" = 1 ∧ "tmc5160 extruder" ∉ r.sections.map (·.name) ∧
    r.driverRemarks .extruder = [comment "tmc5160 driver not configured: MOTOR has no cs pin"] ∧
    (restore Catalog.builtin mixedPrinter).1.review.driverWarnings .extruder =
      ["extruder: tmc5160 needs a cs pin but toolboard:MOTOR has none; using a basic driver profile"] := by
  have sound := restore_sound Catalog.builtin mixedPrinter
  have outcome : (restore Catalog.builtin mixedPrinter).1.driverProfile (.stepper .x) = .configured .tmc5160 "PC4" ∧
      (restore Catalog.builtin mixedPrinter).1.port? ⟨.extruder, .primary⟩ = some ⟨.toolboard, "MOTOR"⟩ ∧
      (restore Catalog.builtin mixedPrinter).1.driverProfile .extruder = .unreachable .tmc5160 .cs := by
    decide +kernel
  obtain ⟨configured, held, unreachable⟩ := outcome
  obtain ⟨r, done⟩ : ∃ r, (restore Catalog.builtin mixedPrinter).1.render .placeholder = .ok r := ⟨_, rfl⟩
  have first := render_driver Catalog.builtin mixedPrinter done (.stepper .x) rfl
  have second := render_driver Catalog.builtin mixedPrinter done .extruder rfl
  have missed := (misses_iff sound).mpr ⟨held, unreachable⟩
  obtain ⟨unsectioned, remarks, _, warnings⟩ := second.missed _ _ _ missed
  refine ⟨r, done, (first.once .tmc5160).mpr ((reaches_iff sound).mpr ⟨_, configured⟩), ?_, ?_, ?_⟩
  · exact unsectioned .tmc5160
  · exact remarks
  · exact warnings

end Session

end PrinterWiring
