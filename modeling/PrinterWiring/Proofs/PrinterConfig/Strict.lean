import PrinterWiring.Proofs.PrinterConfig.Entries
import PrinterWiring.Proofs.Report.Complete

/-!
# Strict renderings

The review of a session and its rendering look at it independently. Yet of a complete session the rendering misses no
pin: a pin is asked for only where the review, or a check on the spot, has seen that its function is assigned, and then
it is held. So the text for missing pins does not matter (`configLines_congr`), and no entry says it
(`strict_without_gaps`).
-/

namespace PrinterWiring.Session

open ConfigLine

/-- What an entry for a pin says if no pin is missing: a pin that is held for a slot, or a reference; and for a group
of pins the two that are held for the slots of a fan. -/
inductive Names (s : Session) : String → String → Prop where
  | pin {key v : String} {k : SlotKey} {name : PinName} (held : s.pin? k name = some v) : Names s key v
  | stall {a : HomingAxis} {d : Driver} (source : s.homingSource a = .stall d) :
      Names s "endstop_pin" (stallEndstop d (.stepper a.motor))
  | probe {a : HomingAxis} (source : s.homingSource a = .probe) : Names s "endstop_pin" probeEndstop
  | group {kind : FanKind} : Names s "pin" (groupPin (pinGroup kind))
  | pair {kind : FanKind} {first second : String} (primary : s.pin? ⟨.fan kind, .primary⟩ .pin = some first)
      (secondary : s.pin? ⟨.fan kind, .secondary⟩ .pin = some second) : Names s "pins" (first ++ ", " ++ second)

variable {c : Catalog} {s : Session} {f motor : PrinterFunction} {name : PinName} {a : HomingAxis} {kind : FanKind}

/-! ## Pins that are not missing -/

private theorem pinOr_congr (held : ∃ v, s.pin? ⟨f, .primary⟩ name = some v) (gap gap' : String) :
    s.pinOr gap f name = s.pinOr gap' f name := by
  obtain ⟨v, held⟩ := held
  simp only [pinOr, held, Option.getD_some]

/-- A motor whose driver carries a stall line has that line wired. -/
theorem exists_diag (stalls : s.homesByStall motor = true) : ∃ v, s.pin? ⟨motor, .primary⟩ .diag = some v := by
  unfold homesByStall at stalls
  split at stalls
  · next a =>
    rw [Bool.and_eq_true] at stalls
    obtain ⟨primary, stalls⟩ := stalls
    split at stalls
    · next d source =>
      obtain ⟨_, _, _, held⟩ := stallDriver?_eq_some.mp (stallDriver?_of_stall source)
      rwa [Axis.motor_moves primary] at held
    · cases stalls
  · cases stalls

private theorem stallLines_congr (motor : PrinterFunction) (d : Driver) (gap gap' : String) :
    s.stallLines gap motor d = s.stallLines gap' motor d := by
  unfold stallLines
  split_ifs with stalls
  · rw [pinOr_congr (exists_diag stalls) gap gap']
  · rw [pinOr_congr (exists_diag stalls) gap gap']
  · rfl

private theorem driverLines_congr (motor : PrinterFunction) (gap gap' : String) :
    s.driverLines gap motor = s.driverLines gap' motor := by
  simp only [driverLines, stallLines_congr motor _ gap gap']

/-- The text for a gap makes no difference to an axis that can find its home. -/
theorem endstopLines_congr (homes : s.homingSource a ≠ .missing) (gap gap' : String) :
    s.endstopLines gap a = s.endstopLines gap' a := by
  unfold endstopLines
  cases source : s.homingSource a with
  | switch _ | stall _ | probe => rfl
  | missing => exact absurd source homes

section
variable (accepted : c.Accepted) (sound : s.Sound c)
include accepted sound

private theorem pinOr_main (assigned : s.isAssigned f = true) (main : name ∈ f.category.mainPins) (gap gap' : String) :
    s.pinOr gap f name = s.pinOr gap' f name :=
  pinOr_congr (exists_main_pin accepted sound assigned main) gap gap'

private theorem motorPinLines_congr (assigned : s.isAssigned motor = true) (sort : motor.category = .motor)
    (gap gap' : String) : s.motorPinLines gap motor = s.motorPinLines gap' motor := by
  have main (name : PinName) (named : name ∈ Category.mainPins .motor) :
      s.pinOr gap motor name = s.pinOr gap' motor name :=
    pinOr_main accepted sound assigned (by rw [sort]; exact named) gap gap'
  simp only [motorPinLines, main .step (by decide), main .dir (by decide), main .enable (by decide)]

/-! ## Blocks of a complete session -/

private theorem fanBlocks_congr (kind : FanKind) (gap gap' : String) :
    s.fanBlocks gap kind = s.fanBlocks gap' kind := by
  by_cases assigned : s.isAssigned (.fan kind)
  · have main : PinName.pin ∈ (PrinterFunction.fan kind).category.mainPins := List.mem_singleton.mpr rfl
    simp only [fanBlocks, pinOr_main accepted sound assigned main gap gap']
  · simp only [fanBlocks, assigned, Bool.not_false, if_true]

private theorem lightBlocks_congr (gap gap' : String) : s.lightBlocks gap = s.lightBlocks gap' := by
  unfold lightBlocks
  split_ifs with assigned
  · rw [pinOr_main accepted sound assigned (by decide) gap gap']
  · rfl

variable (complete : s.Complete)
include complete

private theorem stepperBlocks_congr (axis : Axis) (gap gap' : String) :
    s.stepperBlocks gap axis = s.stepperBlocks gap' axis := by
  unfold stepperBlocks
  by_cases left : !axis.isPrimary && !s.isAssigned (.stepper axis)
  · rw [if_pos left, if_pos left]
  · have assigned : s.isAssigned (.stepper axis) = true := by
      cases axis with
      | x | y | z => exact complete.required _ (by decide)
      | x1 | y1 | z1 | z2 | z3 => simpa [Axis.isPrimary] using left
    rw [if_neg left, if_neg left, motorPinLines_congr accepted sound assigned rfl gap gap',
      endstopLines_congr (complete.homes axis.moves) gap gap', driverLines_congr _ gap gap']

private theorem extruderBlock_congr (gap gap' : String) : s.extruderBlock gap = s.extruderBlock gap' := by
  have motor : s.isAssigned .extruder = true := complete.required _ (by decide)
  have heater : s.isAssigned .extruderHeater = true := complete.required _ (by decide)
  have thermistor : s.isAssigned .extruderThermistor = true := complete.required _ (by decide)
  unfold extruderBlock
  rw [motorPinLines_congr accepted sound motor rfl gap gap', pinOr_main accepted sound heater (by decide) gap gap',
    pinOr_main accepted sound thermistor (by decide) gap gap', driverLines_congr _ gap gap']

private theorem bedBlocks_congr (gap gap' : String) : s.bedBlocks gap = s.bedBlocks gap' := by
  unfold bedBlocks
  rw [← complete.bed, Bool.or_self]
  split_ifs with heater
  · have thermistor : s.isAssigned .bedThermistor = true := complete.bed ▸ heater
    rw [pinOr_main accepted sound heater (by decide) gap gap',
      pinOr_main accepted sound thermistor (by decide) gap gap']
  · rfl

private theorem probeBlocks_congr (gap gap' : String) : s.probeBlocks gap = s.probeBlocks gap' := by
  by_cases assigned : s.isAssigned .probe
  · have signal : s.pinOr gap .probe .signal = s.pinOr gap' .probe .signal :=
      pinOr_main accepted sound assigned (by decide) gap gap'
    by_cases touch : s.settings.probeKind.getD .proximity = .bltouch
    · have kind : s.settings.probeKind = some .bltouch := by
        cases chosen : s.settings.probeKind <;> simp_all
      have servo := pinOr_congr (complete.servo _ kind (by decide) assigned) gap gap'
      simp only [probeBlocks, signal, servo]
    · simp only [probeBlocks, signal, if_neg touch]
  · have other : s.settings.zStop ≠ .probe := fun homes =>
      assigned (complete.probed .z (homingSource_eq_probe.mpr ⟨rfl, homes⟩))
    simp only [probeBlocks, if_neg assigned, if_neg other]

/-- The text for a gap makes no difference to the blocks of a complete session. -/
theorem configBlocks_congr (gap gap' : String) : s.configBlocks gap = s.configBlocks gap' := by
  have steppers : s.stepperBlocks gap = s.stepperBlocks gap' :=
    funext fun axis => stepperBlocks_congr accepted sound complete axis gap gap'
  have fans : s.fanBlocks gap = s.fanBlocks gap' := funext fun kind => fanBlocks_congr accepted sound kind gap gap'
  simp only [configBlocks, steppers, extruderBlock_congr accepted sound complete gap gap',
    bedBlocks_congr accepted sound complete gap gap', fans, probeBlocks_congr accepted sound complete gap gap',
    lightBlocks_congr accepted sound gap gap']

/-- Of a complete session the configuration is the same, whatever text stands for missing pins. -/
theorem configLines_congr (gap gap' : String) : s.configLines gap = s.configLines gap' := by
  rw [configLines, configLines, configBlocks_congr accepted sound complete gap gap']

end

/-! ## Entries of a complete session -/

theorem mem_linesOf {file : ConfigFile} {blocks : List ConfigBlock} {line : ConfigLine} :
    line ∈ linesOf file blocks ↔ ∃ b ∈ blocks, b.file = file ∧ line ∈ b.lines := by
  simp [linesOf, and_assoc]

/-- What an entry says is a name, or it says the text for missing pins. -/
theorem names_of_tells {gap key value : String} {b : ConfigBlock} (tells : Tells gap s b key value)
    (named : key ∈ pinKeys) : Names s key value ∨ value = gap ∨ ∃ second, value = gap ++ ", " ++ second := by
  cases tells with
  | pin _ held => exact .inl (.pin held)
  | gap _ => exact .inr (.inl rfl)
  | stall source _ => exact .inl (.stall source)
  | probe source => exact .inl (.probe source)
  | group _ _ => exact .inl .group
  | @pair kind second secondary =>
    cases primary : s.pin? ⟨.fan kind, .primary⟩ .pin with
    | some first => exact .inl (by simpa only [pinOr, primary, Option.getD_some] using .pair primary secondary)
    | none => exact .inr (.inr ⟨second, by simp only [pinOr, primary, Option.getD_none]⟩)
  | heater => simp [pinKeys] at named

private theorem names_of_mem (same : ∀ gap, s.configLines gap = s.configLines placeholderPin)
    {file : ConfigFile × List ConfigLine} (inside : file ∈ s.configLines placeholderPin) {key value : String}
    (listed : entry key value ∈ file.2) (named : key ∈ pinKeys) : Names s key value := by
  -- A text longer than the value stands for missing pins as well as any other, and the value cannot have it.
  have long : (value ++ "?").length = value.length + 1 := String.length_append ..
  rw [← same (value ++ "?"), configLines, List.mem_map] at inside
  obtain ⟨name, _, rfl⟩ := inside
  obtain ⟨b, here, _, listed⟩ := mem_linesOf.mp listed
  rcases names_of_tells (tells_of_mem here listed (List.mem_cons_of_mem _ named)) named with names | gap | ⟨second, gap⟩
  · exact names
  · have lengths := congrArg String.length gap
    omega
  · have lengths := congrArg String.length gap
    rw [String.length_append, String.length_append] at lengths
    omega

/-- A strict rendering never misses a pin: its files are what they would be with any other text for missing pins, and
each entry for a pin says a pin that is held for a slot or a reference to one. -/
theorem strict_without_gaps {c : Catalog} (accepted : c.Accepted) (d : Document) {r : Rendered}
    (done : (restore c d).1.render .strict = .ok r) :
    (∀ gap, r.files = (restore c d).1.configLines gap) ∧
      ∀ file ∈ r.files, ∀ key value, entry key value ∈ file.2 → key ∈ pinKeys → (restore c d).1.Names key value := by
  have complete : (restore c d).1.Complete := (render_strict_eq_ok.mp done).1
  have same (gap : String) : (restore c d).1.configLines gap = (restore c d).1.configLines placeholderPin :=
    configLines_congr accepted (restore_sound c d) complete gap placeholderPin
  rw [files_of_render done]
  exact ⟨fun gap => (same gap).symm, fun file inside key value listed named => names_of_mem same inside listed named⟩

/-- A printer with a toolboard. X homes by stall detection and Z against the probe; the part fan has two ports, one on
each board. -/
def toolboardPrinter : Document :=
  { Document.empty with
    boards := (Table.empty.insert .mainboard "btt-octopus-v1.1").insert .toolboard "btt-ebb36-v1.2"
    records :=
      [⟨.stepper .x, .primary, .mainboard, "MOTOR0"⟩, ⟨.stepper .y, .primary, .mainboard, "MOTOR1"⟩,
       ⟨.stepper .z, .primary, .mainboard, "MOTOR2"⟩, ⟨.extruder, .primary, .toolboard, "MOTOR"⟩,
       ⟨.extruderHeater, .primary, .toolboard, "HE0"⟩, ⟨.extruderThermistor, .primary, .toolboard, "TH0"⟩,
       ⟨.bedHeater, .primary, .mainboard, "BED"⟩, ⟨.bedThermistor, .primary, .mainboard, "TB"⟩,
       ⟨.fan .partCooling, .primary, .toolboard, "FAN1"⟩, ⟨.fan .partCooling, .secondary, .mainboard, "FAN0"⟩,
       ⟨.fan .hotend, .primary, .toolboard, "FAN2"⟩, ⟨.probe, .primary, .toolboard, "PROBE"⟩,
       ⟨.endstop .y, .primary, .mainboard, "STOP1"⟩]
    settings :=
      { Settings.standard with
        kinematics := some .cartesian, bedSizeX := some 300, bedSizeY := some 300, driver := some .tmc2209
        probeKind := some .bltouch, zStop := .probe } }

theorem review_toolboardPrinter : (restore Catalog.builtin toolboardPrinter).1.review.error? = none := by decide +kernel

/-- A printer with a toolboard. -/
theorem toolboardPrinter_without_gaps : ∃ r, (restore Catalog.builtin toolboardPrinter).1.render .strict = .ok r ∧
    (∀ gap, r.files = (restore Catalog.builtin toolboardPrinter).1.configLines gap) ∧
      ∀ file ∈ r.files, ∀ key value, entry key value ∈ file.2 → key ∈ pinKeys →
        (restore Catalog.builtin toolboardPrinter).1.Names key value := by
  have done := render_strict (s := (restore Catalog.builtin toolboardPrinter).1)
  rw [review_toolboardPrinter] at done
  exact ⟨_, done, strict_without_gaps Catalog.accepted_builtin toolboardPrinter done⟩

end PrinterWiring.Session
