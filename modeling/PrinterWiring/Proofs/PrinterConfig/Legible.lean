import PrinterWiring.Proofs.PrinterConfig.Rows
import PrinterWiring.Proofs.PrinterConfig.Strict
import PrinterWiring.Proofs.SessionFile.Domain
import PrinterWiring.Proofs.SessionFile.Survival

/-!
# Legible sessions

Of a session whose texts hold no line feed, each line of the configuration is read back as it is (`neat_of_mem`). A
session that comes from a file is such a session: a file is read line by line, boards and ports go by the texts that it
names them with, and a raw pin is a word (`legible_of_read`).
-/

namespace PrinterWiring

open ConfigLine

/-- A name that stays within the brackets of a header. -/
def IsTitle (name : String) : Prop := ']' ∉ name.toList ∧ Text.OneLine name

instance (name : String) : Decidable (IsTitle name) := inferInstanceAs (Decidable (_ ∧ _))

private theorem isTitle_append {name more : String} : IsTitle (name ++ more) ↔ IsTitle name ∧ IsTitle more := by
  simp [IsTitle, and_and_and_comm]

section
variable {lines more : List ConfigLine} {key value name text : String} {n : Nat}

@[simp] theorem oneLine_repr (n : Nat) : Text.OneLine n.repr := fun inside =>
  absurd (Text.isDigit_of_mem_toString (n := n) inside) (by decide)

@[simp] theorem neat_nil : Neat [] := List.forall_mem_nil _

@[simp] theorem neat_comment : Neat (comment text :: lines) ↔ Text.OneLine text ∧ Neat lines := by
  have mark : Text.OneLine "# " := by decide
  simp [Neat, clean_iff, Clear, row, mark]

@[simp] theorem neat_header : Neat (header name :: lines) ↔ IsTitle name ∧ Neat lines := by
  have marks : Text.OneLine "[" ∧ Text.OneLine "]" := by decide
  simp [Neat, clean_iff, Clear, row, marks, IsTitle]

@[simp] theorem neat_entry :
    Neat (entry key value :: lines) ↔ (IsEntryKey key ∧ Text.OneLine value) ∧ Neat lines := by
  rw [Neat, List.forall_mem_cons, clean_iff]
  refine and_congr_left' (and_congr_right fun solid => ?_)
  exact oneLine_entry solid

@[simp] theorem neat_count : Neat (Session.count key n :: lines) ↔ IsEntryKey key ∧ Neat lines := by
  rw [Session.count, neat_entry, Nat.toString_eq_repr, and_iff_left (oneLine_repr n)]

@[simp] theorem neat_append : Neat (lines ++ more) ↔ Neat lines ∧ Neat more := List.forall_mem_append

end

namespace Session

/-- A session whose texts hold no line feed. -/
structure Legible (s : Session) : Prop where
  boards : ∀ role id, s.board? role = some id → Text.OneLine id
  ports : ∀ k a, s.port? k = some a → Text.OneLine a.port
  pins : ∀ k name v, s.pin? k name = some v → Text.OneLine v
  texts : ∀ k ∈ SessionFile.freeTexts, ∀ v, s.settings.get? k = some v → Text.OneLine v

/-! ## Sessions from files -/

private theorem oneLine_pinText {role : Role} {raw : String} (valid : isRawPin raw = true) (m : Modifiers) :
    Text.OneLine (pinText role raw m) := by
  have own : Text.OneLine raw := not_mem_of_isRawPin valid (by decide)
  obtain ⟨pullup, invert⟩ := m
  rw [pinText, Text.oneLine_append]
  refine ⟨?_, own⟩
  cases role <;> cases pullup <;> cases invert <;> decide

/-- A session that is restored from a file is legible. -/
theorem legible_of_read {c : Catalog} (accepted : c.Accepted) {text : String} {d : Document}
    (file : SessionFile.read text = .ok d) : (restore c d).1.Legible := by
  obtain ⟨e, put, rfl, _⟩ := SessionFile.stated_of_read file
  have drawn : (restore c e.toDocument).1.Drawn e.toDocument := Restoration.placed_drawn c e.toDocument
  refine ⟨?boards, ?ports, ?pins, ?texts⟩
  case boards =>
    intro role id held
    exact SessionFile.oneLine_of_read (t := .board role) put (drawn.boards role id held)
  case ports =>
    intro k a held
    obtain ⟨port, given, letters⟩ := port_drawn drawn held
    have whole : Text.OneLine (⟨a.role, port⟩ : Address).toText :=
      SessionFile.oneLine_of_read (t := .port k) put (by simp only [SessionFile.Draft.shown, given, Option.map_some])
    rw [Address.toText, Text.oneLine_append] at whole
    exact letters.oneLine whole.2
  case pins =>
    intro k name v held
    obtain ⟨role, raw, m, _, valid, rfl⟩ := exists_text_of_pin? accepted (restore_sound c _) held
    exact oneLine_pinText valid m
  case texts =>
    intro k _ v held
    exact SessionFile.oneLine_of_read put (setting_drawn drawn held)

/-! ## Lines of legible sessions -/

variable {gap : String} {s : Session} {b : ConfigBlock} {motor : PrinterFunction} {a : HomingAxis}

private theorem oneLine_threePlaces (n : Nat) : Text.OneLine (Text.threePlaces n) := by
  rw [Text.threePlaces, Text.thousandths]
  split_ifs <;> simp +decide

private theorem isTitle_key (f : PrinterFunction) : IsTitle f.key := by
  revert f
  decide +kernel

private theorem isTitle_name (d : Driver) : IsTitle d.name := by cases d <;> decide

private theorem isTitle_driver (d : Driver) (f : PrinterFunction) : IsTitle (d.name ++ " " ++ f.key) := by
  exact isTitle_append.mpr ⟨isTitle_append.mpr ⟨isTitle_name d, by decide⟩, isTitle_key f⟩

section
variable (legible : s.Legible) (gapless : Text.OneLine gap)
include legible gapless

private theorem oneLine_pinOr (f : PrinterFunction) (name : PinName) : Text.OneLine (s.pinOr gap f name) := by
  unfold pinOr
  cases held : s.pin? ⟨f, .primary⟩ name with
  | some v => exact legible.pins _ name v held
  | none => exact gapless

private theorem neat_motorPinLines : Neat (s.motorPinLines gap motor) := by
  simp +decide [motorPinLines, oneLine_pinOr legible gapless]

private theorem neat_driverLines : Neat (s.driverLines gap motor) := by
  unfold driverLines
  cases held : s.port? ⟨motor, .primary⟩ with
  | none => exact neat_nil
  | some port =>
    simp only
    cases profile : s.driverProfile motor with
    | basic => exact neat_nil
    | unreachable d missing =>
      have pin : Text.OneLine missing.name := by cases missing <;> decide
      have text : Text.OneLine (d.name ++ " driver not configured: " ++ port.port ++ " has no " ++ missing.name
          ++ " pin") := by
        simp +decide [(isTitle_name d).2, legible.ports _ port held, pin]
      exact neat_comment.mpr ⟨text, neat_nil⟩
    | configured d busPin =>
      obtain ⟨_, name, _, bus⟩ := driverProfile_eq_configured.mp profile
      have text : Text.OneLine busPin := legible.pins _ name busPin bus
      have key : IsEntryKey (if d.bus = .spi then "cs_pin" else "uart_pin") := by split_ifs <;> decide
      have sense : Neat (if d = .tmc5160 then [entry "sense_resistor" "0.075"] else []) := by
        split_ifs <;> simp +decide
      have stall : Neat (s.stallLines gap motor d) := by
        unfold stallLines
        split_ifs <;> simp +decide [oneLine_pinOr legible gapless]
      simp +decide [isTitle_driver, text, key, sense, stall, oneLine_threePlaces]

private theorem neat_endstopLines : Neat (s.endstopLines gap a) := by
  unfold endstopLines
  cases source : s.homingSource a with
  | switch pin =>
    have text : Text.OneLine pin := legible.pins _ _ pin (pin?_of_switch source)
    simp +decide [text]
  | stall d =>
    have text : Text.OneLine (d.name ++ "_" ++ (PrinterFunction.stepper a.motor).key ++ ":virtual_endstop") := by
      simp +decide [(isTitle_name d).2, (isTitle_key _).2]
    exact neat_entry.mpr ⟨⟨by decide, text⟩, neat_count.mpr ⟨by decide, neat_nil⟩⟩
  | probe => simp +decide
  | missing => simp +decide [oneLine_pinOr legible gapless]

omit legible gapless in
private theorem neat_travelLines : Neat (s.travelLines a) := by
  cases a with
  | x | y =>
    simp only [travelLines, rangeLines]
    split_ifs <;> simp +decide
  | z =>
    simp only [travelLines]
    split_ifs <;> simp +decide

private theorem neat_stepper {axis : Axis} (here : b ∈ s.stepperBlocks gap axis) : Neat b.lines := by
  have ends : Neat (if axis.isPrimary then s.endstopLines gap axis.moves ++ s.travelLines axis.moves else []) := by
    split_ifs
    · exact neat_append.mpr ⟨neat_endstopLines legible gapless, neat_travelLines⟩
    · exact neat_nil
  rw [(mem_stepperBlocks.mp here).2]
  simp +decide [isTitle_key, neat_motorPinLines legible gapless, ends, neat_driverLines legible gapless]

private theorem neat_extruder : Neat (s.extruderBlock gap).lines := by
  have sensor : Text.OneLine (s.settings.extruderSensor.getD standardSensor) := by
    cases given : s.settings.extruderSensor with
    | none => decide
    | some v => exact legible.texts .extruderSensor (by decide) v given
  simp +decide [extruderBlock, neat_motorPinLines legible gapless, neat_driverLines legible gapless,
    oneLine_pinOr legible gapless, sensor]

/-! ## Bed, fans, probe, light -/

private theorem neat_bed (here : b ∈ s.bedBlocks gap) : Neat b.lines := by
  have sensor : Text.OneLine (s.settings.bedSensor.getD standardSensor) := by
    cases given : s.settings.bedSensor with
    | none => decide
    | some v => exact legible.texts .bedSensor (by decide) v given
  unfold bedBlocks at here
  split_ifs at here
  · rw [List.mem_singleton] at here
    simp +decide [here, oneLine_pinOr legible gapless, sensor]
  · cases here

private theorem neat_fan {kind : FanKind} (here : b ∈ s.fanBlocks gap kind) : Neat b.lines := by
  have titles : IsTitle (fanHeader kind) ∧ IsTitle ("multi_pin " ++ pinGroup kind) ∧
      Text.OneLine (groupPin (pinGroup kind)) := by
    cases kind <;> decide
  have rules : Neat (fanRuleLines kind) := by cases kind <;> simp +decide [fanRuleLines]
  rw [(mem_fanBlocks.mp here).2]
  cases held : s.pin? ⟨.fan kind, .secondary⟩ .pin with
  | none => simp +decide [titles, oneLine_pinOr legible gapless, rules]
  | some second =>
    have text : Text.OneLine second := legible.pins _ _ second held
    simp +decide [titles, oneLine_pinOr legible gapless, text, rules]

private theorem neat_probe (here : b ∈ s.probeBlocks gap) : Neat b.lines := by
  have each : ∀ b' ∈ s.probeBlocks gap, Neat b'.lines := by
    by_cases touch : s.settings.probeKind.getD .proximity = .bltouch <;> by_cases homes : s.settings.zStop = .probe <;>
      cases assigned : s.isAssigned .probe <;>
        simp +decide [probeBlocks, touch, homes, assigned, oneLine_pinOr legible gapless]
  exact each b here

private theorem neat_light (here : b ∈ s.lightBlocks gap) : Neat b.lines := by
  unfold lightBlocks at here
  split_ifs at here
  · rw [List.mem_singleton] at here
    simp +decide [here, oneLine_pinOr legible gapless]
  · cases here

/-! ## The whole -/

omit gapless in
private theorem neat_title (here : b ∈ s.titleBlocks) : Neat b.lines := by
  have main : Text.OneLine ((s.board? .mainboard).getD "not selected") := by
    cases given : s.board? .mainboard with
    | none => decide
    | some id => exact legible.boards _ id given
  have each : ∀ b' ∈ s.titleBlocks, Neat b'.lines := by
    unfold titleBlocks
    cases given : s.board? .toolboard with
    | none => simp +decide [main]
    | some id => simp +decide [main, legible.boards _ id given]
  exact each b here

omit gapless in
private theorem neat_mcu (here : b ∈ s.mcuBlocks) : Neat b.lines := by
  have serial (v : String) (given : s.settings.mcuSerial = some v) : Text.OneLine v :=
    legible.texts .mcuSerial (by decide) v given
  have uuid (v : String) (given : s.settings.toolboardUuid = some v) : Text.OneLine v :=
    legible.texts .toolboardUuid (by decide) v given
  rcases List.mem_cons.mp here with rfl | here
  · cases given : s.settings.mcuSerial with
    | none => simp +decide
    | some v => simp +decide [serial v given]
  · split_ifs at here
    · rw [List.mem_singleton] at here
      subst here
      cases given : s.settings.toolboardUuid with
      | none => simp +decide
      | some v => simp +decide [uuid v given]
    · cases here

omit legible gapless in
private theorem neat_printer : Neat s.printerBlock.lines := by
  have each (k : Kinematics) : Text.OneLine k.name := by cases k <;> decide
  unfold printerBlock
  cases s.settings.kinematics <;> simp +decide [each]

/-- Each line of the configuration of a legible session is read back as it is. -/
theorem neat_of_mem (here : b ∈ s.configBlocks gap) : Neat b.lines := by
  simp only [configBlocks, List.mem_append, List.mem_flatMap, List.mem_singleton] at here
  rcases here with (((((((title | mcu) | rfl) | ⟨axis, _, stepper⟩) | rfl) | bed) | ⟨kind, _, fan⟩) | probe) | light
  · exact neat_title legible title
  · exact neat_mcu legible mcu
  · exact neat_printer
  · exact neat_stepper legible gapless stepper
  · exact neat_extruder legible gapless
  · exact neat_bed legible gapless bed
  · exact neat_fan legible gapless fan
  · exact neat_probe legible gapless probe
  · exact neat_light legible gapless light

end

end Session

end PrinterWiring
