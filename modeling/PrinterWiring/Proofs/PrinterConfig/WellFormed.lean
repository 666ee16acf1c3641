import Mathlib.Data.List.Flatten
import PrinterWiring.Catalog.Builtin
import PrinterWiring.Proofs.PrinterConfig.Legible
import PrinterWiring.Proofs.PrinterConfig.References

/-!
# Well-formed configurations

No two sections of a configuration have one name, and no two entries of a section one key: which of them there are
depends on the session, but they are always among the same names and keys, in the same order (`names_sublist`,
`distinct_of_mem`). With legible lines this makes a configuration that is read back as it was emitted
(`read_wellFormed`).
-/

namespace PrinterWiring

open ConfigLine

/-- A configuration whose files can be read back. Each row of a text is blank, a comment, a header or an entry; no name
of a section and no key within a section repeats; and a reader of the sections, which refuses entries in front of the
first of them, finds those that were emitted. -/
structure Rendered.WellFormed (r : Rendered) : Prop where
  rows : ∀ file ∈ r.texts, ∀ row ∈ Text.lines file.2, row = "" ∨ ∃ line : ConfigLine, line.Clear ∧ row = line.row
  names : (r.sections.map (·.name)).Nodup
  keys : ∀ sec ∈ r.sections, (sec.entries.map (·.1)).Nodup
  read : ∀ file ∈ r.files, readSections? (configText file.2) = some (PrinterWiring.sections file.2)

/-! ## Keys of a section -/

/-- The keys of the entries among lines. -/
def entryKeys : List ConfigLine → List String
  | [] => []
  | entry key _ :: lines => key :: entryKeys lines
  | _ :: lines => entryKeys lines

/-- Lines none of whose sections has a key twice. -/
def Distinct (lines : List ConfigLine) : Prop := ∀ sec ∈ sections lines, (sec.entries.map (·.1)).Nodup

section
variable {lines more : List ConfigLine} {key value name text : String} {n : Nat}

@[simp] theorem entryKeys_nil : entryKeys [] = [] := rfl

@[simp] theorem entryKeys_comment : entryKeys (comment text :: lines) = entryKeys lines := rfl

@[simp] theorem entryKeys_entry : entryKeys (entry key value :: lines) = key :: entryKeys lines := rfl

@[simp] theorem entryKeys_count : entryKeys (Session.count key n :: lines) = key :: entryKeys lines := rfl

@[simp] theorem entryKeys_append : entryKeys (lines ++ more) = entryKeys lines ++ entryKeys more := by
  induction lines with
  | nil => rfl
  | cons line lines ih => cases line <;> simp [entryKeys, ih]

private theorem distinct_nil : Distinct [] := List.forall_mem_nil _

private theorem looseEntries_sublist (lines : List ConfigLine) :
    ((looseEntries lines).map (·.1)).Sublist (entryKeys lines) := by
  induction lines with
  | nil => exact .slnil
  | cons line lines ih =>
    cases line with
    | comment text => exact ih
    | header name => exact List.nil_sublist _
    | entry key value => exact ih.cons_cons key

/-- The keys of a section are distinct if those of the lines below its header are, up to other sections. -/
theorem distinct_section (name : String) (plain : sectionNames lines = []) (headed : looseEntries more = [])
    (own : (entryKeys lines).Nodup) (others : Distinct more) : Distinct (header name :: (lines ++ more)) := by
  have none : sections lines = [] := List.map_eq_nil_iff.mp plain
  intro sec inside
  rw [sections, sections_append headed, none, List.nil_append, looseEntries_append headed] at inside
  rcases List.mem_cons.mp inside with rfl | later
  · exact own.sublist (looseEntries_sublist lines)
  · exact others sec later

end

namespace Session

variable {gap : String} {s : Session} {b : ConfigBlock} {motor : PrinterFunction} {a : HomingAxis} {kind : FanKind}

private theorem distinct_driverLines : Distinct (s.driverLines gap motor) := by
  unfold driverLines
  split
  · exact distinct_nil
  · split
    · exact distinct_nil
    · exact List.forall_mem_nil _
    · next d busPin _ =>
      have own : (entryKeys ([entry (if d.bus = .spi then "cs_pin" else "uart_pin") busPin,
          entry "run_current" (Text.threePlaces s.settings.runCurrent.toNat)]
            ++ (if d = .tmc5160 then [entry "sense_resistor" "0.075"] else [])
            ++ [count "stealthchop_threshold" 0] ++ s.stallLines gap motor d)).Nodup := by
        unfold stallLines
        cases d <;> by_cases stalls : s.homesByStall motor <;> simp +decide [stalls]
      have whole := distinct_section (d.name ++ " " ++ motor.key) (by simp) rfl own distinct_nil
      rwa [List.append_nil] at whole

private theorem keys_endstopLines :
    (entryKeys (s.endstopLines gap a)).Sublist ["endstop_pin", "homing_retract_dist"] := by
  unfold endstopLines
  cases s.homingSource a <;> simp

private theorem keys_travelLines :
    (entryKeys (s.travelLines a)).Sublist ["position_min", "position_endstop", "position_max", "homing_speed"] := by
  cases a with
  | x | y =>
    simp only [travelLines, rangeLines]
    split_ifs <;> simp
  | z =>
    simp only [travelLines]
    split_ifs <;> simp

private theorem distinct_stepper {axis : Axis} (here : b ∈ s.stepperBlocks gap axis) : Distinct b.lines := by
  have ends : (entryKeys
      (if axis.isPrimary then s.endstopLines gap axis.moves ++ s.travelLines axis.moves else [])).Sublist
        ["endstop_pin", "homing_retract_dist", "position_min", "position_endstop", "position_max", "homing_speed"] := by
    split_ifs
    · rw [entryKeys_append]
      exact keys_endstopLines.append keys_travelLines
    · exact List.nil_sublist _
  have known : (["step_pin", "dir_pin", "enable_pin", "microsteps", "rotation_distance"] ++ ["endstop_pin",
      "homing_retract_dist", "position_min", "position_endstop", "position_max", "homing_speed"]).Nodup := by decide
  have own : (entryKeys (s.motorPinLines gap (.stepper axis)
      ++ [count "rotation_distance" (if axis.moves = .z then 8 else 40)]
      ++ (if axis.isPrimary then s.endstopLines gap axis.moves ++ s.travelLines axis.moves else []))).Nodup := by
    rw [entryKeys_append]
    exact known.sublist (ends.append_left _)
  rw [(mem_stepperBlocks.mp here).2]
  exact distinct_section _ (by simp) (headed_driverLines _) own distinct_driverLines

private theorem distinct_extruder : Distinct (s.extruderBlock gap).lines := by
  refine distinct_section _ rfl (headed_driverLines _) ?_ distinct_driverLines
  show ["step_pin", "dir_pin", "enable_pin", "microsteps", "rotation_distance", "nozzle_diameter", "filament_diameter",
    "heater_pin", "sensor_type", "sensor_pin", "control", "pid_Kp", "pid_Ki", "pid_Kd", "min_temp", "max_temp"].Nodup
  decide

private theorem distinct_mcu (here : b ∈ s.mcuBlocks) : Distinct b.lines := by
  have each : ∀ b' ∈ s.mcuBlocks, Distinct b'.lines := by
    unfold mcuBlocks
    cases s.settings.mcuSerial <;> cases s.settings.toolboardUuid <;> split_ifs <;>
      simp [Distinct, sections, looseEntries]
  exact each b here

private theorem distinct_printer : Distinct s.printerBlock.lines := by
  unfold printerBlock
  cases s.settings.kinematics <;> simp [Distinct, sections, looseEntries, count]

private theorem distinct_title (here : b ∈ s.titleBlocks) : Distinct b.lines := by
  have each : ∀ b' ∈ s.titleBlocks, Distinct b'.lines := by
    unfold titleBlocks
    cases s.board? .toolboard <;> simp [Distinct, sections, looseEntries]
  exact each b here

private theorem distinct_bed (here : b ∈ s.bedBlocks gap) : Distinct b.lines := by
  unfold bedBlocks at here
  split_ifs at here
  · rw [List.mem_singleton] at here
    simp [here, Distinct, sections, looseEntries, count]
  · cases here

private theorem distinct_fan (here : b ∈ s.fanBlocks gap kind) : Distinct b.lines := by
  rw [(mem_fanBlocks.mp here).2]
  cases s.pin? ⟨.fan kind, .secondary⟩ .pin <;> cases kind <;>
    simp [Distinct, sections, looseEntries, fanRuleLines, count]

private theorem distinct_probe (here : b ∈ s.probeBlocks gap) : Distinct b.lines := by
  have each : ∀ b' ∈ s.probeBlocks gap, Distinct b'.lines := by
    by_cases touch : s.settings.probeKind.getD .proximity = .bltouch <;> by_cases homes : s.settings.zStop = .probe <;>
      cases assigned : s.isAssigned .probe <;>
        simp [probeBlocks, touch, homes, assigned, Distinct, sections, looseEntries, count]
  exact each b here

private theorem distinct_light (here : b ∈ s.lightBlocks gap) : Distinct b.lines := by
  unfold lightBlocks at here
  split_ifs at here
  · rw [List.mem_singleton] at here
    simp [here, Distinct, sections, looseEntries, count]
  · cases here

/-- No section of the configuration has a key twice. -/
theorem distinct_of_mem (here : b ∈ s.configBlocks gap) : Distinct b.lines := by
  simp only [configBlocks, List.mem_append, List.mem_flatMap, List.mem_singleton] at here
  rcases here with (((((((title | mcu) | rfl) | ⟨axis, _, stepper⟩) | rfl) | bed) | ⟨kind, _, fan⟩) | probe) | light
  · exact distinct_title title
  · exact distinct_mcu mcu
  · exact distinct_printer
  · exact distinct_stepper stepper
  · exact distinct_extruder
  · exact distinct_bed bed
  · exact distinct_fan fan
  · exact distinct_probe probe
  · exact distinct_light light

/-! ## Names of sections -/

/-- Where lists have no member in common, a member tells which of them it is of. -/
theorem eq_of_nodup_flatMap {α β : Type} {xs : List α} {f : α → List β} (apart : (xs.flatMap f).Nodup) {x y : α}
    (listed : x ∈ xs) (listed' : y ∈ xs) {name : β} (own : name ∈ f x) (other : name ∈ f y) : x = y := by
  have symmetric : Std.Symm (Function.onFun List.Disjoint f) := ⟨fun _ _ disjoint => disjoint.symm⟩
  by_contra distinct
  exact (List.nodup_flatMap.mp apart).2.forall listed listed' distinct own other

/-- The names of the sections of blocks. -/
def namesOf (blocks : List ConfigBlock) : List String := blocks.flatMap fun b => sectionNames b.lines

@[simp] theorem namesOf_append (blocks more : List ConfigBlock) :
    namesOf (blocks ++ more) = namesOf blocks ++ namesOf more := List.flatMap_append

/-- The names that the sections of a motor can have. -/
def motorNames (motor : PrinterFunction) : List String :=
  motor.key :: (Enumerated.all : List Driver).map fun d => d.name ++ " " ++ motor.key

/-- The names that sections can have, in the order in which they are written. -/
def everyName : List String :=
  [includeName] ++ ["mcu", "mcu toolboard"] ++ ["printer"]
    ++ (Enumerated.all : List Axis).flatMap (fun axis => motorNames (.stepper axis))
    ++ motorNames .extruder ++ ["heater_bed"]
    ++ (Enumerated.all : List FanKind).flatMap (fun kind => ["multi_pin " ++ pinGroup kind, fanHeader kind])
    ++ ["bltouch", "probe", "safe_z_home", "bed_mesh"] ++ ["output_pin caselight"]

private theorem everyName_nodup : everyName.Nodup := by decide +kernel

/-- The sections of a driver are named for the driver and the motor. -/
theorem names_driverLines : (sectionNames (s.driverLines gap motor)).Sublist
    ((Enumerated.all : List Driver).map fun d => d.name ++ " " ++ motor.key) := by
  rcases sectionNames_driverLines gap s motor with none | ⟨d, one⟩
  · rw [none]
    exact List.nil_sublist _
  · rw [one, List.singleton_sublist]
    exact List.mem_map_of_mem (Enumerated.mem_all d)

theorem names_title : (namesOf s.titleBlocks).Sublist [includeName] := by
  unfold titleBlocks
  cases s.board? .toolboard <;> simp [namesOf, includeName]

theorem names_mcu : (namesOf s.mcuBlocks).Sublist ["mcu", "mcu toolboard"] := by
  unfold mcuBlocks
  cases s.settings.mcuSerial <;> cases s.settings.toolboardUuid <;> split_ifs <;> simp [namesOf]

theorem names_printer : (namesOf [s.printerBlock]).Sublist ["printer"] := by
  unfold printerBlock
  cases s.settings.kinematics <;> simp [namesOf]

theorem names_stepper (axis : Axis) : (namesOf (s.stepperBlocks gap axis)).Sublist (motorNames (.stepper axis)) := by
  by_cases left : (!axis.isPrimary && !s.isAssigned (.stepper axis)) = true
  · simp only [stepperBlocks, if_pos left]
    exact List.nil_sublist _
  · simp only [stepperBlocks, if_neg left, namesOf, List.flatMap_singleton, List.cons_append, sectionNames_header,
      sectionNames_append, sectionNames_motorPinLines, sectionNames_count, sectionNames_nil, sectionNames_ends,
      List.nil_append]
    exact names_driverLines.cons_cons _

theorem names_extruder : (namesOf [s.extruderBlock gap]).Sublist (motorNames .extruder) := by
  simp only [extruderBlock, namesOf, List.flatMap_singleton, List.cons_append, sectionNames_header, sectionNames_append,
    sectionNames_motorPinLines, sectionNames_entry, sectionNames_count, sectionNames_nil, List.nil_append]
  exact names_driverLines.cons_cons _

theorem names_bed : (namesOf (s.bedBlocks gap)).Sublist ["heater_bed"] := by
  unfold bedBlocks
  split_ifs <;> simp [namesOf]

theorem names_fan (kind : FanKind) :
    (namesOf (s.fanBlocks gap kind)).Sublist ["multi_pin " ++ pinGroup kind, fanHeader kind] := by
  have rules : sectionNames (fanRuleLines kind) = [] := by cases kind <;> rfl
  cases assigned : s.isAssigned (.fan kind) <;> cases held : s.pin? ⟨.fan kind, .secondary⟩ .pin <;>
    simp [fanBlocks, assigned, held, namesOf, rules, pinGroup]

theorem names_probe :
    (namesOf (s.probeBlocks gap)).Sublist ["bltouch", "probe", "safe_z_home", "bed_mesh"] := by
  by_cases touch : s.settings.probeKind.getD .proximity = .bltouch <;> by_cases homes : s.settings.zStop = .probe <;>
    cases assigned : s.isAssigned .probe <;> simp [probeBlocks, touch, homes, assigned, namesOf]

theorem names_light : (namesOf (s.lightBlocks gap)).Sublist ["output_pin caselight"] := by
  unfold lightBlocks
  split_ifs <;> simp [namesOf]

/-- The blocks of a part of the configuration, and the names that their sections can have. -/
structure BlockGroup where
  blocks : List ConfigBlock
  names : List String

/-- The parts of the configuration, in order. -/
def groups (gap : String) (s : Session) : List BlockGroup :=
  [⟨s.titleBlocks, [includeName]⟩, ⟨s.mcuBlocks, ["mcu", "mcu toolboard"]⟩, ⟨[s.printerBlock], ["printer"]⟩]
    ++ (Enumerated.all : List Axis).map (fun axis => ⟨s.stepperBlocks gap axis, motorNames (.stepper axis)⟩)
    ++ [⟨[s.extruderBlock gap], motorNames .extruder⟩, ⟨s.bedBlocks gap, ["heater_bed"]⟩]
    ++ (Enumerated.all : List FanKind).map (fun kind =>
      ⟨s.fanBlocks gap kind, ["multi_pin " ++ pinGroup kind, fanHeader kind]⟩)
    ++ [⟨s.probeBlocks gap, ["bltouch", "probe", "safe_z_home", "bed_mesh"]⟩,
        ⟨s.lightBlocks gap, ["output_pin caselight"]⟩]

/-- The groups are all blocks, in order. -/
theorem blocks_groups : (groups gap s).flatMap (·.blocks) = s.configBlocks gap := by
  simp only [groups, configBlocks, List.flatMap_append, List.flatMap_cons, List.flatMap_nil, List.flatMap_map,
    List.append_nil, List.append_assoc]

private theorem everyName_groups : (groups gap s).flatMap (·.names) = everyName := by
  simp only [groups, everyName, List.flatMap_append, List.flatMap_cons, List.flatMap_nil, List.flatMap_map,
    List.append_nil, List.append_assoc]

/-- The sections of a group of blocks have the names of the group. -/
theorem names_group {g : BlockGroup} (listed : g ∈ groups gap s) : (namesOf g.blocks).Sublist g.names := by
  simp only [groups, List.mem_append, List.mem_map, List.mem_cons, List.not_mem_nil, or_false] at listed
  rcases listed with ((((rfl | rfl | rfl) | ⟨axis, _, rfl⟩) | rfl | rfl) | ⟨kind, _, rfl⟩) | rfl | rfl
  · exact names_title
  · exact names_mcu
  · exact names_printer
  · exact names_stepper axis
  · exact names_extruder
  · exact names_bed
  · exact names_fan kind
  · exact names_probe
  · exact names_light

/-- The names of sections are known beforehand, and so is their order. -/
theorem names_sublist : (namesOf (s.configBlocks gap)).Sublist everyName := by
  rw [← blocks_groups, ← everyName_groups, namesOf, List.flatMap_assoc]
  exact .flatMap_right _ fun g listed => names_group listed

/-- The name of a section tells the part that it belongs to. -/
theorem mem_group {g : BlockGroup} (listed : g ∈ groups gap s) (here : b ∈ s.configBlocks gap) {name : String}
    (inside : name ∈ sectionNames b.lines) (own : name ∈ g.names) : b ∈ g.blocks := by
  rw [← blocks_groups] at here
  obtain ⟨g', listed', here⟩ := List.mem_flatMap.mp here
  have named : name ∈ g'.names := (names_group listed').subset (List.mem_flatMap.mpr ⟨b, here, inside⟩)
  have apart : ((groups gap s).flatMap (·.names)).Nodup := everyName_groups ▸ everyName_nodup
  rwa [eq_of_nodup_flatMap apart listed listed' own named]

/-! ## Files -/

variable {mode : RenderMode} {r : Rendered}

/-- No two sections have one name. -/
theorem names_nodup (done : s.render mode = .ok r) : (r.sections.map (·.name)).Nodup := by
  have same : ((s.configBlocks placeholderPin).flatMap fun b => sections b.lines).map (·.name) =
      namesOf (s.configBlocks placeholderPin) := List.map_flatMap
  rw [((sections_perm done).map _).nodup_iff, same]
  exact everyName_nodup.sublist names_sublist

/-- No section has a key twice. -/
theorem keys_nodup (done : s.render mode = .ok r) : ∀ sec ∈ r.sections, (sec.entries.map (·.1)).Nodup := by
  intro sec inside
  obtain ⟨b, here, own⟩ := List.mem_flatMap.mp ((sections_perm done).mem_iff.mp inside)
  exact distinct_of_mem here sec own

/-- Every configuration of a legible session is well-formed. -/
theorem Legible.wellFormed (legible : s.Legible) (done : s.render mode = .ok r) : r.WellFormed := by
  have neat (file : ConfigFile × List ConfigLine) (inside : file ∈ r.files) : Neat file.2 := by
    intro line listed
    obtain ⟨b, here, own, _⟩ := exists_block done inside listed
    exact neat_of_mem legible (by decide) here line own
  refine ⟨?rows, ?names, ?keys, ?read⟩
  case rows =>
    intro text named row listed
    obtain ⟨file, inside, rfl⟩ := List.mem_map.mp named
    rw [lines_configText (neat file inside)] at listed
    rcases List.mem_append.mp listed with own | last
    · obtain ⟨line, own, here⟩ := List.mem_flatMap.mp own
      exact (mem_rows here).imp_right fun same => ⟨line, (neat file inside line own).clear, same⟩
    · exact .inl (List.mem_singleton.mp last)
  case names => exact names_nodup done
  case keys => exact keys_nodup done
  case read =>
    intro file inside
    have headed : looseEntries file.2 = [] := by
      rw [((mem_files done).mp inside).2]
      exact headed_file file.1
    exact readSections?_configText (neat file inside) headed

/-- Every configuration of a session that comes from a file is well-formed. -/
theorem read_wellFormed {c : Catalog} (accepted : c.Accepted) {text : String} {d : Document}
    (file : SessionFile.read text = .ok d) {mode : RenderMode} {r : Rendered}
    (done : (restore c d).1.render mode = .ok r) : r.WellFormed :=
  (legible_of_read accepted file).wellFormed done

/-- A file with a fan that has two ports. -/
def pairedFanFile : String :=
  "board.mainboard=btt-octopus-v1.1\nfan_part.port=mainboard:FAN0\nfan_part.port_2=mainboard:FAN1\n"

/-- What `pairedFanFile` says. -/
def pairedFan : Document :=
  { Document.empty with
    boards := Table.empty.insert .mainboard "btt-octopus-v1.1"
    records :=
      [⟨.fan .partCooling, .primary, .mainboard, "FAN0"⟩, ⟨.fan .partCooling, .secondary, .mainboard, "FAN1"⟩] }

/-- A fan with two ports. -/
theorem pairedFan_wellFormed : SessionFile.read pairedFanFile = .ok pairedFan ∧
    ∃ r, (restore Catalog.builtin pairedFan).1.render .placeholder = .ok r ∧ r.WellFormed ∧
      ⟨"multi_pin part_fan_pins", [("pins", "PA8, PE5")]⟩ ∈ r.sections := by
  have file : SessionFile.read pairedFanFile = .ok pairedFan := by decide +kernel
  have wellFormed : Rendered.WellFormed _ :=
    read_wellFormed Catalog.accepted_builtin file (show (restore _ _).1.render .placeholder = _ from rfl)
  exact ⟨file, _, rfl, wellFormed, by decide +kernel⟩

end Session

end PrinterWiring
