import Mathlib.Tactic.SplitIfs
import PrinterWiring.PrinterConfig.Render
import PrinterWiring.Proofs.Session.Motion

/-!
# Entries that name pins

An entry for a pin says one of few things: a pin that the session holds, the text that stands for missing pins, or a
reference to something that stands for a pin elsewhere. An entry for a heater always says the extruder. A reference
to a stall line or to a group of pins stands in the block that makes it (`tells_of_mem`).
-/

namespace PrinterWiring

/-- The keys of the entries that name pins. -/
def pinKeys : List String :=
  ["step_pin", "dir_pin", "enable_pin", "endstop_pin", "uart_pin", "cs_pin", "diag_pin", "heater_pin", "sensor_pin",
   "control_pin", "pin", "pins"]

/-- The endstop that the stall detection of the driver of a motor is. -/
def stallEndstop (d : Driver) (motor : PrinterFunction) : String := d.name ++ "_" ++ motor.key ++ ":virtual_endstop"

/-- The endstop that a probe is. -/
def probeEndstop : String := "probe:z_virtual_endstop"

/-- The name of the group of the pins of a fan. -/
def pinGroup (kind : FanKind) : String := Session.fanName kind ++ "_pins"

/-- The pin that a group of pins is. -/
def groupPin (group : String) : String := "multi_pin:" ++ group

namespace Session

open ConfigLine

/-- What an entry of a block says that names a pin or a heater; `gap` stands for missing pins. -/
inductive Tells (gap : String) (s : Session) (b : ConfigBlock) : String → String → Prop where
  | pin {key v : String} {k : SlotKey} {name : PinName} (other : key ≠ "heater") (held : s.pin? k name = some v) :
      Tells gap s b key v
  | gap {key : String} (other : key ≠ "heater") : Tells gap s b key gap
  | stall {a : HomingAxis} {d : Driver} (source : s.homingSource a = .stall d)
      (here : b ∈ s.stepperBlocks gap a.motor) : Tells gap s b "endstop_pin" (stallEndstop d (.stepper a.motor))
  | probe {a : HomingAxis} (source : s.homingSource a = .probe) : Tells gap s b "endstop_pin" probeEndstop
  | group {kind : FanKind} {second : String} (held : s.pin? ⟨.fan kind, .secondary⟩ .pin = some second)
      (here : b ∈ s.fanBlocks gap kind) : Tells gap s b "pin" (groupPin (pinGroup kind))
  | pair {kind : FanKind} {second : String} (held : s.pin? ⟨.fan kind, .secondary⟩ .pin = some second) :
      Tells gap s b "pins" (s.pinOr gap (.fan kind) .pin ++ ", " ++ second)
  | heater : Tells gap s b "heater" "extruder"

/-- Lines whose entries for pins and heaters say what those of a block may say. -/
def Told (gap : String) (s : Session) (b : ConfigBlock) (lines : List ConfigLine) : Prop :=
  ∀ key value, .entry key value ∈ lines → key ∈ "heater" :: pinKeys → Tells gap s b key value

variable {gap : String} {s : Session} {b : ConfigBlock}

section
variable {lines more : List ConfigLine} {key value : String} {n : Nat}

@[simp] theorem told_nil : Told gap s b [] := by simp [Told]

@[simp] theorem told_comment {text : String} : Told gap s b (comment text :: lines) ↔ Told gap s b lines := by
  simp [Told]

@[simp] theorem told_header {name : String} : Told gap s b (header name :: lines) ↔ Told gap s b lines := by
  simp [Told]

@[simp] theorem told_entry :
    Told gap s b (entry key value :: lines) ↔
      (key ∈ "heater" :: pinKeys → Tells gap s b key value) ∧ Told gap s b lines := by
  constructor
  · intro told
    exact ⟨told key value (List.mem_cons_self ..), fun k v inside => told k v (List.mem_cons_of_mem _ inside)⟩
  · rintro ⟨first, rest⟩ k v inside named
    rcases List.mem_cons.mp inside with same | later
    · cases same
      exact first named
    · exact rest k v later named

@[simp] theorem told_count :
    Told gap s b (count key n :: lines) ↔
      (key ∈ "heater" :: pinKeys → Tells gap s b key (toString n)) ∧ Told gap s b lines := told_entry

@[simp] theorem told_append :
    Told gap s b (lines ++ more) ↔ Told gap s b lines ∧ Told gap s b more := by
  constructor
  · intro told
    exact ⟨fun k v inside => told k v (List.mem_append_left _ inside),
      fun k v inside => told k v (List.mem_append_right _ inside)⟩
  · rintro ⟨first, second⟩ k v inside
    rcases List.mem_append.mp inside with left | right
    · exact first k v left
    · exact second k v right

end

private theorem tells_pinOr {key : String} {f : PrinterFunction} {name : PinName} (other : key ≠ "heater") :
    Tells gap s b key (s.pinOr gap f name) := by
  unfold pinOr
  cases held : s.pin? ⟨f, .primary⟩ name with
  | some v => exact .pin other held
  | none => exact .gap other

/-! ## Head of the files -/

private theorem told_title (here : b ∈ s.titleBlocks) : Told gap s b b.lines := by
  have each : ∀ b' ∈ s.titleBlocks, Told gap s b b'.lines := by
    unfold titleBlocks
    cases s.board? .toolboard <;> simp
  exact each b here

private theorem told_mcu (here : b ∈ s.mcuBlocks) : Told gap s b b.lines := by
  have each : ∀ b' ∈ s.mcuBlocks, Told gap s b b'.lines := by
    unfold mcuBlocks
    cases s.settings.mcuSerial <;> cases s.settings.toolboardUuid <;> split_ifs <;> simp [pinKeys]
  exact each b here

private theorem told_printer : Told gap s b s.printerBlock.lines := by
  unfold printerBlock
  cases s.settings.kinematics <;> simp [pinKeys]

/-! ## Motors -/

variable {motor : PrinterFunction} {a : HomingAxis}

private theorem told_motorPinLines : Told gap s b (s.motorPinLines gap motor) := by
  simp [motorPinLines, pinKeys, tells_pinOr]

private theorem told_driverLines : Told gap s b (s.driverLines gap motor) := by
  unfold driverLines
  split
  · simp
  · split
    · simp
    · simp
    · next d busPin profile =>
      obtain ⟨_, name, _, held⟩ := driverProfile_eq_configured.mp profile
      have bus {key : String} (other : key ≠ "heater") : Tells gap s b key busPin := .pin other held
      have sense : Told gap s b (if d = .tmc5160 then [entry "sense_resistor" "0.075"] else []) := by
        split_ifs <;> simp [pinKeys]
      have stall : Told gap s b (s.stallLines gap motor d) := by
        unfold stallLines
        split_ifs <;> simp [pinKeys, tells_pinOr]
      have named : (if d.bus = .spi then "cs_pin" else "uart_pin") ≠ "heater" := by split_ifs <;> decide
      simp [bus named, sense, stall, pinKeys]

private theorem told_endstopLines (here : b ∈ s.stepperBlocks gap a.motor) : Told gap s b (s.endstopLines gap a) := by
  unfold endstopLines
  cases source : s.homingSource a with
  | switch pin =>
    have held : Tells gap s b "endstop_pin" pin := .pin (by decide) (pin?_of_switch source)
    simp [held]
  | stall d =>
    simp only [told_entry, told_count, told_nil, and_true]
    exact ⟨fun _ => .stall source here, by simp [pinKeys]⟩
  | probe =>
    simp only [told_entry, told_nil, and_true]
    exact fun _ => .probe source
  | missing => simp [tells_pinOr]

private theorem told_travelLines : Told gap s b (s.travelLines a) := by
  cases a with
  | x | y =>
    simp only [travelLines, rangeLines]
    split_ifs <;> simp [pinKeys]
  | z =>
    simp only [travelLines]
    split_ifs <;> simp [pinKeys]

theorem mem_stepperBlocks {axis : Axis} :
    b ∈ s.stepperBlocks gap axis ↔ (axis.isPrimary = true ∨ s.isAssigned (.stepper axis) = true) ∧
      b = ⟨s.fileOf (.stepper axis),
        header (PrinterFunction.stepper axis).key :: s.motorPinLines gap (.stepper axis)
          ++ [count "rotation_distance" (if axis.moves = .z then 8 else 40)]
          ++ (if axis.isPrimary then s.endstopLines gap axis.moves ++ s.travelLines axis.moves else [])
          ++ s.driverLines gap (.stepper axis)⟩ := by
  cases primary : axis.isPrimary <;> cases assigned : s.isAssigned (.stepper axis) <;>
    simp [stepperBlocks, primary, assigned]

private theorem told_stepper {axis : Axis} (here : b ∈ s.stepperBlocks gap axis) : Told gap s b b.lines := by
  have ends :
      Told gap s b (if axis.isPrimary then s.endstopLines gap axis.moves ++ s.travelLines axis.moves else []) := by
    split_ifs with primary
    · rw [← Axis.motor_moves primary] at here
      exact told_append.mpr ⟨told_endstopLines here, told_travelLines⟩
    · exact told_nil
  obtain ⟨_, same⟩ := mem_stepperBlocks.mp here
  rw [congrArg ConfigBlock.lines same]
  simp [told_motorPinLines, told_driverLines, ends, pinKeys]

private theorem told_extruder : Told gap s b (s.extruderBlock gap).lines := by
  simp [extruderBlock, told_motorPinLines, told_driverLines, tells_pinOr, pinKeys]

/-! ## Bed, fans, probe, light -/

private theorem told_bed (here : b ∈ s.bedBlocks gap) : Told gap s b b.lines := by
  unfold bedBlocks at here
  split_ifs at here
  · rw [List.mem_singleton] at here
    simp [here, tells_pinOr, pinKeys]
  · cases here

theorem mem_fanBlocks {kind : FanKind} :
    b ∈ s.fanBlocks gap kind ↔ s.isAssigned (.fan kind) = true ∧
      b = ⟨s.fileOf (.fan kind),
        (match s.pin? ⟨.fan kind, .secondary⟩ .pin with
          | some second =>
            [header ("multi_pin " ++ pinGroup kind), entry "pins" (s.pinOr gap (.fan kind) .pin ++ ", " ++ second),
             header (fanHeader kind), entry "pin" (groupPin (pinGroup kind))]
          | none => [header (fanHeader kind), entry "pin" (s.pinOr gap (.fan kind) .pin)])
          ++ fanRuleLines kind⟩ := by
  cases assigned : s.isAssigned (.fan kind) with
  | false => simp [fanBlocks, assigned]
  | true =>
    simp only [fanBlocks, assigned, Bool.not_true, Bool.false_eq_true, if_false, List.mem_singleton, true_and]
    rfl

private theorem told_fan {kind : FanKind} (here : b ∈ s.fanBlocks gap kind) : Told gap s b b.lines := by
  have rules : Told gap s b (fanRuleLines kind) := by
    have extruder : Tells gap s b "heater" "extruder" := .heater
    cases kind <;> simp [fanRuleLines, pinKeys, extruder]
  obtain ⟨_, same⟩ := mem_fanBlocks.mp here
  rw [congrArg ConfigBlock.lines same]
  cases held : s.pin? ⟨.fan kind, .secondary⟩ .pin with
  | none => simp [tells_pinOr, rules]
  | some second =>
    simp only [told_append, told_header, told_entry, told_nil, and_true]
    exact ⟨⟨fun _ => .pair held, fun _ => .group held here⟩, rules⟩

private theorem told_probe (here : b ∈ s.probeBlocks gap) : Told gap s b b.lines := by
  have each : ∀ b' ∈ s.probeBlocks gap, Told gap s b b'.lines := by
    by_cases kind : s.settings.probeKind.getD .proximity = .bltouch <;> by_cases homes : s.settings.zStop = .probe <;>
      cases assigned : s.isAssigned .probe <;> simp [probeBlocks, kind, homes, assigned, tells_pinOr, pinKeys]
  exact each b here

private theorem told_light (here : b ∈ s.lightBlocks gap) : Told gap s b b.lines := by
  unfold lightBlocks at here
  split_ifs at here
  · rw [List.mem_singleton] at here
    simp [here, tells_pinOr, pinKeys]
  · cases here

/-! ## The whole -/

/-- Every entry of the configuration that names a pin or a heater says what its block may say. -/
theorem tells_of_mem (here : b ∈ s.configBlocks gap) {key value : String} (listed : entry key value ∈ b.lines)
    (named : key ∈ "heater" :: pinKeys) : Tells gap s b key value := by
  have told : Told gap s b b.lines := by
    simp only [configBlocks, List.mem_append, List.mem_flatMap, List.mem_singleton] at here
    rcases here with (((((((title | mcu) | rfl) | ⟨axis, _, stepper⟩) | rfl) | bed) | ⟨kind, _, fan⟩) | probe) | light
    · exact told_title title
    · exact told_mcu mcu
    · exact told_printer
    · exact told_stepper stepper
    · exact told_extruder
    · exact told_bed bed
    · exact told_fan fan
    · exact told_probe probe
    · exact told_light light
  exact told key value listed named

end Session

end PrinterWiring
