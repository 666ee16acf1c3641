import Mathlib.Data.Option.Basic
import PrinterWiring.Proofs.Checks
import PrinterWiring.Proofs.Names
import PrinterWiring.Proofs.Text.Numeral
import PrinterWiring.Settings.Basic

/-!
# Settings as texts

Settings are known by the texts of all their keys (`ext_get?`), and setting one key from a text leaves the other texts
alone. Whether the text is accepted, and what becomes of it, does not depend on the settings it is set in.
-/

namespace PrinterWiring

namespace Settings

theorem toString_nat_injective : Function.Injective (toString : Nat → String) := by
  intro m n same
  have digits : Nat.toDigits 10 m = Nat.toDigits 10 n := by
    simpa [Nat.toString_eq_repr, Nat.toList_repr] using congrArg String.toList same
  rw [← Nat.ofDigitChars_ten_toDigits (n := m), digits, Nat.ofDigitChars_ten_toDigits]

private theorem wordText_injective : Function.Injective wordText := fun _ _ same =>
  UInt32.toNat_inj.mp (toString_nat_injective same)

/-! ## Numbers -/

/-- A number that is shown is read back, if it is not zero. -/
theorem readPositive_wordText (k : SettingKey) (n : UInt32) :
    readPositive k (wordText n) = if n = 0 then .error (.zero k) else .ok n := by
  have zero : n.toNat = 0 ↔ n = 0 := by rw [← UInt32.toNat_inj]; rfl
  rw [readPositive, wordText, Text.readNumeral_toString n.toNat_lt]
  simp only [zero, UInt32.ofNat_toNat]

theorem readSteps_toString (k : SettingKey) (n : UInt16) :
    readSteps k (toString n.toNat) = if n.toNat ∈ stepCounts then .ok n else .error (.badStep k n.toNat) := by
  rw [readSteps, Text.readNumeral_toString n.toNat_lt]
  simp only [UInt16.ofNat_toNat]

theorem pos_of_readPositive {k : SettingKey} {s : String} {n : UInt32} (read : readPositive k s = .ok n) : 0 < n := by
  unfold readPositive at read
  split at read
  · cases read
  · next m numeral =>
    split_ifs at read with zero
    cases read
    have below : m < UInt32.size := Text.readNumeral_lt (by decide) numeral
    rw [UInt32.lt_iff_toNat_lt, UInt32.toNat_ofNat_of_lt' below]
    exact Nat.pos_of_ne_zero zero

theorem mem_stepCounts_of_readSteps {k : SettingKey} {s : String} {n : UInt16} (read : readSteps k s = .ok n) :
    n.toNat ∈ stepCounts := by
  unfold readSteps at read
  split at read
  · cases read
  · next m numeral =>
    split_ifs at read with step
    cases read
    have below : m < UInt16.size := Text.readNumeral_lt (by decide) numeral
    rwa [UInt16.toNat_ofNat_of_lt' below]

/-! ## Texts -/

/-- Settings with the same texts are equal. -/
theorem ext_get? {s t : Settings} (same : ∀ k, s.get? k = t.get? k) : s = t := by
  have choice {α : Type} {name : α → String} (injective : Function.Injective name) {a b : Option α}
      (texts : a.map name = b.map name) : a = b := Option.map_injective injective texts
  have word {a b : UInt32} (texts : some (wordText a) = some (wordText b)) : a = b :=
    wordText_injective (Option.some.inj texts)
  have steps : s.microsteps = t.microsteps :=
    UInt16.toNat_inj.mp (toString_nat_injective (Option.some.inj (same .microsteps)))
  have stop : s.zStop = t.zStop := ZStop.name_injective (Option.some.inj (same .zStop))
  have parts : s = ⟨t.kinematics, t.bedSizeX, t.bedSizeY, t.zHeight, t.maxVelocity, t.maxAccel, t.driver, t.runCurrent,
      t.microsteps, t.extruderSensor, t.bedSensor, t.probeKind, t.zStop, t.mcuSerial, t.toolboardUuid⟩ := by
    rw [← choice Kinematics.name_injective (same .kinematics), ← choice wordText_injective (same .bedSizeX),
      ← choice wordText_injective (same .bedSizeY), ← choice wordText_injective (same .zHeight),
      ← word (same .maxVelocity), ← word (same .maxAccel), ← choice Driver.name_injective (same .driver),
      ← word (same .runCurrent), ← steps, ← show s.extruderSensor = t.extruderSensor from same .extruderSensor,
      ← show s.bedSensor = t.bedSensor from same .bedSensor, ← choice ProbeKind.name_injective (same .probeKind),
      ← stop, ← show s.mcuSerial = t.mcuSerial from same .mcuSerial,
      ← show s.toolboardUuid = t.toolboardUuid from same .toolboardUuid]
  exact parts

variable {s t : Settings} {k j : SettingKey} {v : String}

theorem get?_set_of_ne (done : s.set k v = .ok t) (other : j ≠ k) : t.get? j = s.get? j := by
  unfold set at done
  cases k
  case extruderSensor | bedSensor | mcuSerial | toolboardUuid =>
    simp only [setTrimmed, Except.ok.injEq] at done
    generalize Text.nonEmpty? (Text.trim v) = text at done
    subst done
    cases j <;> first | exact absurd rfl other | rfl
  all_goals
    simp only [setTrimmed, map_eq_ok] at done
    obtain ⟨a, _, rfl⟩ := done
    cases j <;> first | exact absurd rfl other | rfl

/-- What a text sets does not depend on the settings before. -/
theorem set_get?_congr (done : s.set k v = .ok t) (u : Settings) :
    ∃ u', u.set k v = .ok u' ∧ u'.get? k = t.get? k := by
  unfold set at done ⊢
  cases k
  case extruderSensor | bedSensor | mcuSerial | toolboardUuid =>
    simp only [setTrimmed, Except.ok.injEq] at done ⊢
    generalize Text.nonEmpty? (Text.trim v) = text at done ⊢
    subst done
    exact ⟨_, rfl, rfl⟩
  all_goals
    simp only [setTrimmed, map_eq_ok] at done ⊢
    obtain ⟨a, read, rfl⟩ := done
    exact ⟨_, ⟨a, read, rfl⟩, rfl⟩

/-- Nor does it depend on them why a text is refused. -/
theorem set_error_congr {e : SettingError} (refused : s.set k v = .error e) (u : Settings) : u.set k v = .error e := by
  unfold set at refused ⊢
  cases k
  case extruderSensor | bedSensor | mcuSerial | toolboardUuid => cases refused
  all_goals
    rw [setTrimmed, map_eq_error] at refused ⊢
    exact refused

end Settings

end PrinterWiring
