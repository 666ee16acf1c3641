import Mathlib.Logic.Basic
import PrinterWiring.Session.Motion

/-!
# What the motors of a session can do, continued

What it takes for a driver to be configured, and for an axis to home against what it homes against.
-/

namespace PrinterWiring

@[simp] theorem HomingAxis.moves_motor (a : HomingAxis) : a.motor.moves = a := by cases a <;> rfl

@[simp] theorem HomingAxis.isPrimary_motor (a : HomingAxis) : a.motor.isPrimary = true := by cases a <;> rfl

theorem Axis.motor_moves {a : Axis} (primary : a.isPrimary = true) : a.moves.motor = a := by
  cases a <;> first | rfl | cases primary

namespace Session

variable {s : Session} {motor : PrinterFunction} {a : HomingAxis} {d : Driver} {pin : String}

theorem driverProfile_eq_configured :
    s.driverProfile motor = .configured d pin ↔
      s.settings.driver = some d ∧ ∃ name, d.busPin? = some name ∧ s.pin? ⟨motor, .primary⟩ name = some pin := by
  unfold driverProfile
  cases s.settings.driver with
  | none => simp
  | some d' =>
    simp only [Option.some.injEq]
    cases bus : d'.busPin? with
    | none =>
      simp only [reduceCtorEq, false_iff, not_and]
      rintro rfl
      simp [bus]
    | some name =>
      cases held : s.pin? ⟨motor, .primary⟩ name with
      | none =>
        simp only [held, reduceCtorEq, false_iff, not_and]
        rintro rfl
        simp [bus, held]
      | some busPin =>
        simp only [held, DriverProfile.configured.injEq]
        constructor
        · rintro ⟨rfl, rfl⟩
          exact ⟨rfl, name, bus, held⟩
        · rintro ⟨rfl, name', bus', held'⟩
          cases bus.symm.trans bus'
          exact ⟨rfl, Option.some.inj (held.symm.trans held')⟩

/-- An axis stalls if its driver is configured, reports stalls and has a pin to say so. -/
theorem stallDriver?_eq_some :
    s.stallDriver? a = some d ↔ (∃ pin, s.driverProfile (.stepper a.motor) = .configured d pin) ∧
      a.homesByStall = true ∧ d.reportsStalls = true ∧ ∃ pin, s.pin? ⟨.stepper a.motor, .primary⟩ .diag = some pin := by
  unfold stallDriver?
  cases s.driverProfile (.stepper a.motor) with
  | basic => simp
  | unreachable d' missing => simp
  | configured d' busPin =>
    simp only [Option.ite_none_right_eq_some, Bool.and_eq_true, Option.some.injEq, Option.isSome_iff_exists,
      DriverProfile.configured.injEq]
    constructor
    · rintro ⟨⟨⟨able, reports⟩, wired⟩, rfl⟩
      exact ⟨⟨busPin, rfl, rfl⟩, able, reports, wired⟩
    · rintro ⟨⟨_, rfl, _⟩, able, reports, wired⟩
      exact ⟨⟨⟨able, reports⟩, wired⟩, rfl⟩

theorem homingSource_eq_probe : s.homingSource a = .probe ↔ a = .z ∧ s.settings.zStop = .probe := by
  unfold homingSource
  by_cases probed : a = .z ∧ s.settings.zStop = .probe
  · simp [probed]
  · simp only [iff_false_intro probed, iff_false]
    cases s.pin? ⟨.endstop a, .primary⟩ .pin with
    | some pin => simp
    | none => cases s.stallDriver? a <;> simp

/-- An axis finds its home by the probe, by a switch or by stalling. -/
theorem homingSource_ne_missing :
    s.homingSource a ≠ .missing ↔ (a = .z ∧ s.settings.zStop = .probe) ∨
      (∃ pin, s.pin? ⟨.endstop a, .primary⟩ .pin = some pin) ∨ ∃ d, s.stallDriver? a = some d := by
  unfold homingSource
  by_cases probed : a = .z ∧ s.settings.zStop = .probe
  · simp [probed]
  · simp only [iff_false_intro probed, if_false, false_or]
    cases s.pin? ⟨.endstop a, .primary⟩ .pin with
    | some pin => simp
    | none => cases s.stallDriver? a <;> simp

theorem pin?_of_switch (source : s.homingSource a = .switch pin) : s.pin? ⟨.endstop a, .primary⟩ .pin = some pin := by
  unfold homingSource at source
  split at source
  · cases source
  · cases held : s.pin? ⟨.endstop a, .primary⟩ .pin with
    | some pin' =>
      simp only [held, HomingSource.switch.injEq] at source
      rw [source]
    | none => cases stall : s.stallDriver? a <;> simp [held, stall] at source

theorem stallDriver?_of_stall (source : s.homingSource a = .stall d) : s.stallDriver? a = some d := by
  unfold homingSource at source
  split at source
  · cases source
  · cases held : s.pin? ⟨.endstop a, .primary⟩ .pin with
    | some pin' => simp [held] at source
    | none => cases stall : s.stallDriver? a <;> simp_all

end Session

end PrinterWiring
