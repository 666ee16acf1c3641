import PrinterWiring.Proofs.Settings.Store
import PrinterWiring.Proofs.Text.Spelling

/-!
# Settings that are numbers

Six settings are positive numbers of 32 bits, and one is a power of two. Each takes the texts that spell such a number,
whatever its leading zeros, and stores the number itself; every other text is refused and changes nothing
(`set_number`). So zero is never stored, and a number that is too large never wraps into one that would fit.
-/

namespace PrinterWiring

namespace SettingKey

/-- The settings that are numbers. -/
def numbers : List SettingKey := [bedSizeX, bedSizeY, zHeight, maxVelocity, maxAccel, runCurrent, microsteps]

/-- The numbers that such a setting takes. -/
def Takes : SettingKey → Nat → Prop
  | microsteps, n => n.isPowerOfTwo ∧ 1 ≤ n ∧ n ≤ 256
  | _, n => 1 ≤ n ∧ n ≤ 4294967295

end SettingKey

namespace Settings

/-- The number that a setting has, if it is one. -/
def number? (s : Settings) : SettingKey → Option Nat
  | .bedSizeX => s.bedSizeX.map UInt32.toNat
  | .bedSizeY => s.bedSizeY.map UInt32.toNat
  | .zHeight => s.zHeight.map UInt32.toNat
  | .maxVelocity => some s.maxVelocity.toNat
  | .maxAccel => some s.maxAccel.toNat
  | .runCurrent => some s.runCurrent.toNat
  | .microsteps => some s.microsteps.toNat
  | _ => none

/-- What setting a number from a text does: it stores the number that the text spells, and changes no other setting;
and if the text spells none that the setting takes, it is refused and changes nothing. -/
structure StoresNumber (s : Settings) (k : SettingKey) (v : String) : Prop where
  stored : ∀ n, Text.Spells n v → k.Takes n →
    ∃ t, s.setNamed k.name v = .ok (some t) ∧ t.number? k = some n ∧ ∀ j, j ≠ k → t.get? j = s.get? j
  refused : (∀ n, Text.Spells n v → ¬ k.Takes n) →
    (∃ e, s.setNamed k.name v = .error e) ∧ s.after (.set k.name v) = s

variable {s t : Settings} {k : SettingKey} {v : String} {n : Nat}

/-! ## Numbers that are read -/

/-- A positive number is read from its numerals and from nothing else. -/
theorem readPositive_eq_ok {w : UInt32} :
    readPositive k v = .ok w ↔ Text.Numeral w.toNat v.toList ∧ 1 ≤ w.toNat ∧ w.toNat ≤ 4294967295 := by
  have read (n : Nat) : Text.readNumeral UInt32.size v = .ok n ↔ Text.Numeral n v.toList ∧ n < UInt32.size :=
    Text.readNumeral_eq_ok (by decide)
  unfold readPositive
  constructor
  · intro done
    split at done
    · cases done
    · next n numeral =>
      split_ifs at done with zero
      cases done
      obtain ⟨word, below⟩ := (read n).mp numeral
      rw [UInt32.toNat_ofNat_of_lt' below]
      exact ⟨word, Nat.pos_of_ne_zero zero, Nat.le_pred_of_lt below⟩
  · rintro ⟨word, positive, _⟩
    have numeral := (read w.toNat).mpr ⟨word, w.toNat_lt⟩
    have filled : w.toNat ≠ 0 := by omega
    simp only [numeral, filled, if_false, UInt32.ofNat_toNat]

private theorem mem_stepCounts_iff : n ∈ stepCounts ↔ n.isPowerOfTwo ∧ 1 ≤ n ∧ n ≤ 256 := by
  constructor
  · intro listed
    have powers : ∀ n ∈ stepCounts, ∃ i < 9, n = 2 ^ i := by decide
    have bounds : ∀ n ∈ stepCounts, 1 ≤ n ∧ n ≤ 256 := by decide
    obtain ⟨i, _, same⟩ := powers n listed
    exact ⟨⟨i, same⟩, bounds n listed⟩
  · rintro ⟨⟨i, rfl⟩, _, most⟩
    have small : i < 9 := by
      by_contra large
      have least : 2 ^ 9 ≤ 2 ^ i := Nat.pow_le_pow_right (by decide) (by omega)
      omega
    have listed : ∀ i < 9, 2 ^ i ∈ stepCounts := by decide
    exact listed i small

/-- A step count is read from its numerals and from nothing else. -/
theorem readSteps_eq_ok {w : UInt16} :
    readSteps k v = .ok w ↔ Text.Numeral w.toNat v.toList ∧ w.toNat ∈ stepCounts := by
  have read (n : Nat) : Text.readNumeral UInt16.size v = .ok n ↔ Text.Numeral n v.toList ∧ n < UInt16.size :=
    Text.readNumeral_eq_ok (by decide)
  unfold readSteps
  constructor
  · intro done
    split at done
    · cases done
    · next n numeral =>
      split_ifs at done with step
      cases done
      obtain ⟨word, below⟩ := (read n).mp numeral
      rw [UInt16.toNat_ofNat_of_lt' below]
      exact ⟨word, step⟩
  · rintro ⟨word, step⟩
    have numeral := (read w.toNat).mpr ⟨word, w.toNat_lt⟩
    simp only [numeral, step, if_true, UInt16.ofNat_toNat]

/-! ## Numbers that are stored -/

/-- A setting of 32 bits is what is read for it. -/
theorem setTrimmed_word (number : k ∈ SettingKey.numbers) (other : k ≠ .microsteps) (s : Settings) (v : String) :
    ∃ store : UInt32 → Settings, s.setTrimmed k v = (readPositive k v).map store ∧
      ∀ w, (store w).number? k = some w.toNat := by
  simp only [SettingKey.numbers, List.mem_cons, List.not_mem_nil, or_false] at number
  rcases number with rfl | rfl | rfl | rfl | rfl | rfl | rfl
  case inr.inr.inr.inr.inr.inr => exact absurd rfl other
  all_goals exact ⟨_, rfl, fun _ => rfl⟩

private theorem takes_word (other : k ≠ .microsteps) : k.Takes n ↔ 1 ≤ n ∧ n ≤ 4294967295 := by
  cases k
  case microsteps => exact absurd rfl other
  all_goals exact Iff.rfl

/-- A number is stored exactly if the text spells it and the setting takes it, and nothing else ever is. -/
theorem set_number_iff (number : k ∈ SettingKey.numbers) (s : Settings) (v : String) :
    (∀ n, (∃ t, s.set k v = .ok t ∧ t.number? k = some n) ↔ Text.Spells n v ∧ k.Takes n) ∧
      ∀ t, s.set k v = .ok t → ∃ n, t.number? k = some n := by
  simp only [set, Text.spells_iff]
  by_cases steps : k = .microsteps
  · subst steps
    simp only [setTrimmed, map_eq_ok, readSteps_eq_ok, mem_stepCounts_iff, SettingKey.Takes]
    constructor
    · intro n
      constructor
      · rintro ⟨_, ⟨w, taken, rfl⟩, same⟩
        cases same
        exact taken
      · rintro ⟨word, power, least, most⟩
        have fits : (UInt16.ofNat n).toNat = n := UInt16.toNat_ofNat_of_lt' (by rw [UInt16.size]; omega)
        exact ⟨_, ⟨.ofNat n, fits.symm ▸ ⟨word, power, least, most⟩, rfl⟩, congrArg some fits⟩
    · rintro _ ⟨w, _, rfl⟩
      exact ⟨_, rfl⟩
  · obtain ⟨store, done, stored⟩ := setTrimmed_word number steps s (Text.trim v)
    simp only [done, map_eq_ok, readPositive_eq_ok, takes_word steps]
    constructor
    · intro n
      constructor
      · rintro ⟨_, ⟨w, taken, rfl⟩, same⟩
        rw [stored, Option.some.injEq] at same
        exact same ▸ taken
      · rintro ⟨word, least, most⟩
        have fits : (UInt32.ofNat n).toNat = n := UInt32.toNat_ofNat_of_lt' (by rw [UInt32.size]; omega)
        exact ⟨_, ⟨.ofNat n, fits.symm ▸ ⟨word, least, most⟩, rfl⟩, (stored _).trans (congrArg some fits)⟩
    · rintro _ ⟨w, _, rfl⟩
      exact ⟨_, stored w⟩

/-- A setting that is a number takes the texts that spell a number in its range, and stores that number. -/
theorem set_number (s : Settings) (number : k ∈ SettingKey.numbers) (v : String) : s.StoresNumber k v where
  stored := by
    intro n spelled taken
    obtain ⟨t, done, stored⟩ := ((set_number_iff number s v).1 n).mpr ⟨spelled, taken⟩
    refine ⟨t, ?_, stored, fun j other => get?_set_of_ne done other⟩
    rw [setNamed_name, done]
    rfl
  refused := by
    intro unfit
    have refused : ∀ t, s.setNamed k.name v ≠ .ok (some t) := by
      intro t answer
      rw [setNamed_name, map_eq_ok] at answer
      obtain ⟨t, done, _⟩ := answer
      obtain ⟨n, stored⟩ := (set_number_iff number s v).2 t done
      obtain ⟨spelled, taken⟩ := ((set_number_iff number s v).1 n).mp ⟨t, done, stored⟩
      exact unfit n spelled taken
    refine ⟨?_, (stores s k.name v).refused refused⟩
    cases answer : s.set k v with
    | error e => exact ⟨e, by rw [setNamed_name, answer]; rfl⟩
    | ok t => exact absurd (by rw [setNamed_name, answer]; rfl) (refused t)

/-- What stands in front of the digits does not count, and 65552 is not cut down to the 16 that it is in 16 bits. -/
theorem standard_number :
    (∃ t, standard.setNamed "printer.bed_size_x" "\t+0300 " = .ok (some t) ∧ t.number? .bedSizeX = some 300) ∧
      (∃ e, standard.setNamed "stepper.microsteps" "65552" = .error e) ∧
      standard.after (.set "stepper.microsteps" "65552") = standard := by
  have size : Text.Spells 300 "\t+0300 " :=
    ⟨['\t'], ['+', '0', '3', '0', '0'], [' '], by decide, List.all_eq_true.mp rfl, List.all_eq_true.mp rfl,
      .signed ⟨nofun, List.all_eq_true.mp rfl, rfl⟩⟩
  have steps : Text.Spells 65552 "65552" :=
    ⟨[], ['6', '5', '5', '5', '2'], [], by decide, nofun, nofun, .plain ⟨nofun, List.all_eq_true.mp rfl, rfl⟩⟩
  have unfit : ∀ n, Text.Spells n "65552" → ¬ SettingKey.microsteps.Takes n := by
    rintro n spelled ⟨_, _, most⟩
    have same : n = 65552 := spelled.unique steps
    omega
  obtain ⟨t, done, stored, _⟩ :=
    (set_number standard (k := .bedSizeX) (by decide) "\t+0300 ").stored 300 size ⟨by decide, by decide⟩
  refine ⟨⟨t, done, stored⟩, ?_⟩
  exact (set_number standard (k := .microsteps) (by decide) "65552").refused unfit

end Settings

end PrinterWiring
