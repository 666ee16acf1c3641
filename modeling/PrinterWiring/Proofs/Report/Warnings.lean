import PrinterWiring.Proofs.Names
import PrinterWiring.Proofs.Session.Exclusive
import PrinterWiring.Proofs.Text.Cut
import PrinterWiring.Report.Review

/-!
# What warnings are about

Warnings are texts, and the first word of a warning tells what it is about (`Caution.firstWord?_message`). So a report
has at most one warning about the driver of a motor (`driverWarnings_review`) and at most one about the probe
(`probeWarnings_review`), whatever the names of boards and ports.
-/

namespace PrinterWiring

/-- The text in front of the first blank, if there is a blank. -/
def Text.firstWord? (s : String) : Option String := (splitFirst? ' ' s).map (·.1)

private theorem Text.firstWord?_append {s t : String} (solid : ' ' ∉ s.toList) :
    firstWord? (s ++ " " ++ t) = some s := by
  rw [firstWord?, show " " = String.singleton ' ' from rfl, splitFirst?_append solid, Option.map_some]

/-- What a caution is about. -/
def Caution.topic : Caution → String
  | serialUnset => SettingKey.mcuSerial.name
  | sensorUnset key => key.name
  | probeKindUnset => SettingKey.probeKind.name
  | probeSkipped _ => SettingKey.probeKind.name
  | driverUnreachable motor _ _ _ => motor.key ++ ":"
  | uuidUnset => SettingKey.toolboardUuid.name
  | toolboardUnused => "A"
  | contested _ => "port"

private theorem Caution.message_eq (c : Caution) : ∃ rest, c.message = c.topic ++ " " ++ rest := by
  cases c with
  | serialUnset => exact ⟨"is not set; edit the serial line of [mcu] before starting Klipper", by decide⟩
  | sensorUnset key =>
    refine ⟨"is not set; using '" ++ standardSensor ++ "'", ?_⟩
    show key.name ++ " is not set; using '" ++ standardSensor ++ "'" = _
    rw [show " is not set; using '" = " " ++ "is not set; using '" by decide]
    simp only [topic, String.append_assoc]
  | probeKindUnset => exact ⟨"is not set; rendering a generic [probe] (inductive)", by decide⟩
  | probeSkipped kind =>
    refine ⟨"is '" ++ kind.name ++ "' but no probe port is assigned; probe section skipped", ?_⟩
    show "probe.type is '" ++ kind.name ++ "' but no probe port is assigned; probe section skipped" = _
    rw [show "probe.type is '" = "probe.type" ++ " " ++ "is '" by decide]
    simp only [topic, SettingKey.name, String.append_assoc]
  | driverUnreachable motor d missing port =>
    refine ⟨d.name ++ " needs a " ++ missing.name ++ " pin but " ++ port.toText ++
      " has none; using a basic driver profile", ?_⟩
    show motor.key ++ ": " ++ d.name ++ " needs a " ++ missing.name ++ " pin but " ++ port.toText ++
      " has none; using a basic driver profile" = _
    rw [show ": " = ":" ++ " " by decide]
    simp only [topic, String.append_assoc]
  | uuidUnset => exact ⟨"is not set; edit [mcu toolboard] before starting Klipper", by decide⟩
  | toolboardUnused => exact ⟨"toolboard is selected but no function uses its ports", by decide⟩
  | contested port => exact ⟨port.toText ++ " is claimed by more than one function", String.append_assoc⟩

/-- The topic of a warning is its first word. -/
theorem Caution.firstWord?_message (c : Caution) : Text.firstWord? c.message = some c.topic := by
  have keys : ∀ key : SettingKey, ' ' ∉ key.name.toList := by decide +kernel
  have motors : ∀ f : PrinterFunction, ' ' ∉ f.key.toList := by decide +kernel
  have solid : ' ' ∉ c.topic.toList := by
    cases c with
    | toolboardUnused => decide
    | contested _ => exact show ' ' ∉ "port".toList by decide
    | driverUnreachable motor _ _ _ => simp [topic, motors motor]
    | serialUnset | sensorUnset _ | probeKindUnset | probeSkipped _ | uuidUnset => exact keys _
  obtain ⟨rest, text⟩ := c.message_eq
  rw [text, Text.firstWord?_append solid]

/-- The warnings of a report about something. -/
def Report.about (report : Report) (topic : String) : List String :=
  report.warnings.filter fun w => Text.firstWord? w = some topic

/-- The warnings of a report about the driver of a motor. -/
def Report.driverWarnings (report : Report) (motor : PrinterFunction) : List String := report.about (motor.key ++ ":")

/-- The warnings of a report about the probe. -/
def Report.probeWarnings (report : Report) : List String := report.about SettingKey.probeKind.name

/-- Where only one value has a part in a list, the list is this part. -/
theorem flatMap_eq_of_nodup {α β : Type} {xs : List α} {f : α → List β} {a : α} (distinct : xs.Nodup) (inside : a ∈ xs)
    (others : ∀ x ∈ xs, x ≠ a → f x = []) : xs.flatMap f = f a := by
  induction xs with
  | nil => cases inside
  | cons x xs ih =>
    obtain ⟨first, rest⟩ := List.nodup_cons.mp distinct
    obtain ⟨here, later⟩ := List.forall_mem_cons.mp others
    rw [List.flatMap_cons]
    by_cases same : x = a
    · subst same
      have none : xs.flatMap f = [] :=
        List.flatMap_eq_nil_iff.mpr fun y inside => later y inside fun same => first (same ▸ inside)
      rw [none, List.append_nil]
    · have inside : a ∈ xs := (List.mem_cons.mp inside).resolve_left (Ne.symm same)
      rw [here same, List.nil_append, ih rest inside later]

namespace Session

variable {s : Session} {motor : PrinterFunction} {topic : String}

/-- The warnings about a topic are those whose first word it is. -/
theorem about_review : s.review.about topic = (s.cautions.filter (·.topic = topic)).map Caution.message := by
  rw [Report.about, review, List.filter_map]
  simp only [Function.comp_def, Caution.firstWord?_message, Option.some.injEq]

/-! ## Topics -/

/-- The topics of the cautions about settings, the toolboard and ports. -/
def otherTopics : List String :=
  [SettingKey.mcuSerial.name, SettingKey.extruderSensor.name, SettingKey.bedSensor.name, SettingKey.toolboardUuid.name,
    "A", "port"]

private theorem topic_setting {c : Caution} (listed : c ∈ s.settingCautions) : c.topic ∈ otherTopics := by
  have each : ∀ c ∈ s.settingCautions, c.topic ∈ otherTopics := by
    unfold settingCautions cautionIf
    split_ifs <;> simp [Caution.topic, otherTopics]
  exact each c listed

private theorem topic_toolboard {c : Caution} (listed : c ∈ s.toolboardCautions) : c.topic ∈ otherTopics := by
  have each : ∀ c ∈ s.toolboardCautions, c.topic ∈ otherTopics := by
    unfold toolboardCautions cautionIf
    split_ifs <;> simp [Caution.topic, otherTopics]
  exact each c listed

private theorem topic_contested {c : Caution} (listed : c ∈ s.registry.conflicts.map .contested) :
    c.topic ∈ otherTopics := by
  obtain ⟨port, _, rfl⟩ := List.mem_map.mp listed
  simp [Caution.topic, otherTopics]

private theorem topic_probe {c : Caution} (listed : c ∈ s.probeCautions) : c.topic = SettingKey.probeKind.name := by
  unfold probeCautions at listed
  split at listed
  · rw [List.mem_singleton.mp listed]
    rfl
  · rw [List.mem_singleton.mp listed]
    rfl
  · cases listed

/-- A motor is warned of if its driver cannot be reached. -/
theorem mem_driverCautions {a : Assignment} {c : Caution} :
    c ∈ s.driverCautions a ↔ isMotor a.function = true ∧ a.slot = .primary ∧
      ∃ d missing, s.driverProfile a.function = .unreachable d missing ∧
        c = .driverUnreachable a.function d missing a.port := by
  unfold driverCautions
  split_ifs with primary
  · simp only [Bool.and_eq_true, decide_eq_true_eq] at primary
    cases s.driverProfile a.function <;> simp [primary]
  · simp only [Bool.and_eq_true, decide_eq_true_eq, not_and] at primary
    simp only [List.not_mem_nil, false_iff, not_and]
    exact fun sort slot => absurd slot (primary sort)

private theorem topic_driver {a : Assignment} {c : Caution} (listed : c ∈ s.driverCautions a) :
    c.topic = a.function.key ++ ":" := by
  obtain ⟨_, _, _, _, _, rfl⟩ := mem_driverCautions.mp listed
  rfl

private theorem filter_topic_eq_nil {cs : List Caution} (other : ∀ c ∈ cs, c.topic ≠ topic) :
    cs.filter (·.topic = topic) = [] :=
  List.filter_eq_nil_iff.mpr fun c listed same => other c listed (of_decide_eq_true same)

/-- Of the cautions about something else than settings, the toolboard and ports, those about the probe come first. -/
theorem cautions_about (other : topic ∉ otherTopics) :
    s.cautions.filter (·.topic = topic) =
      s.probeCautions.filter (·.topic = topic) ++
        s.assignments.flatMap fun a => (s.driverCautions a).filter (·.topic = topic) := by
  have none {cs : List Caution} (known : ∀ c ∈ cs, c.topic ∈ otherTopics) : cs.filter (·.topic = topic) = [] :=
    filter_topic_eq_nil fun c listed same => other (same ▸ known c listed)
  rw [cautions]
  simp only [List.filter_append, none fun _ => topic_setting, none fun _ => topic_toolboard,
    none fun _ => topic_contested, List.nil_append, List.append_nil, List.filter_flatMap]

private theorem motor_topic (f : PrinterFunction) : f.key ++ ":" ∉ SettingKey.probeKind.name :: otherTopics := by
  revert f
  decide +kernel

/-! ## Warnings of a review -/

/-- The warnings about the probe are what the cautions about it say. -/
theorem probeWarnings_review : s.review.probeWarnings = s.probeCautions.map Caution.message := by
  have own : s.probeCautions.filter (·.topic = SettingKey.probeKind.name) = s.probeCautions :=
    List.filter_eq_self.mpr fun c listed => decide_eq_true (topic_probe listed)
  have drivers : (s.assignments.flatMap fun a =>
      (s.driverCautions a).filter (·.topic = SettingKey.probeKind.name)) = [] :=
    List.flatMap_eq_nil_iff.mpr fun a _ => filter_topic_eq_nil fun c listed same =>
      motor_topic a.function (List.mem_cons.mpr (.inl ((topic_driver listed).symm.trans same)))
  rw [Report.probeWarnings, about_review, cautions_about (by decide), own, drivers, List.append_nil]

/-- Only the primary port of a motor gives rise to a warning about its driver. -/
theorem filter_driverCautions {a : Assignment} :
    (s.driverCautions a).filter (·.topic = motor.key ++ ":") =
      if a.key = ⟨motor, .primary⟩ then s.driverCautions a else [] := by
  split_ifs with here
  · refine List.filter_eq_self.mpr fun c listed => decide_eq_true ?_
    rw [topic_driver listed, show a.function = motor from congrArg SlotKey.function here]
  · refine filter_topic_eq_nil fun c listed same => here ?_
    rw [topic_driver listed, String.append_left_inj] at same
    obtain ⟨_, slot, _⟩ := mem_driverCautions.mp listed
    rw [Assignment.key, PrinterFunction.key_injective same, slot]

/-- The warnings about the driver of a motor: one if it has a port and its driver cannot be reached there, and else
none. -/
theorem driverWarnings_review (sort : isMotor motor = true) :
    s.review.driverWarnings motor = match s.port? ⟨motor, .primary⟩, s.driverProfile motor with
      | some port, .unreachable d missing => [(Caution.driverUnreachable motor d missing port).message]
      | _, _ => [] := by
  obtain ⟨unprobed, other⟩ := not_or.mp (List.mem_cons.not.mp (motor_topic motor))
  have probe : s.probeCautions.filter (·.topic = motor.key ++ ":") = [] :=
    filter_topic_eq_nil fun c listed same => unprobed (same.symm.trans (topic_probe listed))
  rw [Report.driverWarnings, about_review, cautions_about other, probe, List.nil_append]
  simp only [filter_driverCautions]
  have distinct : s.assignments.Nodup := (assignments_distinct s).imp fun apart same => apart (congrArg _ same)
  cases held : s.port? ⟨motor, .primary⟩ with
  | none =>
    have unassigned : ∀ a ∈ s.assignments, a.key ≠ ⟨motor, .primary⟩ := by
      intro a inside same
      rw [← same, port?_of_mem_assignments inside] at held
      cases held
    rw [List.flatMap_eq_nil_iff.mpr fun a inside => if_neg (unassigned a inside)]
    rfl
  | some port =>
    obtain ⟨a, inside, same, rfl⟩ := exists_mem_assignments held
    have others : ∀ b ∈ s.assignments, b ≠ a → (if b.key = ⟨motor, .primary⟩ then s.driverCautions b else []) = [] := by
      intro b listed other
      refine if_neg fun same' => other ?_
      rw [mem_assignments, same'] at listed
      rw [mem_assignments, same, listed] at inside
      exact Option.some.inj inside
    rw [flatMap_eq_of_nodup distinct inside others, if_pos same]
    obtain ⟨rfl, primary⟩ := SlotKey.mk.inj same
    have slot : a.slot = .primary := primary
    simp only [driverCautions, sort, slot, Bool.true_and, decide_true, if_true]
    cases s.driverProfile a.function <;> rfl

end Session

end PrinterWiring
