import Mathlib.Data.List.Nodup
import PrinterWiring.Session.Document

/-!
# Names

Values of the closed vocabularies have different names, so that a name stands for the value it was written for
(`Enumerated.named?_name`).
-/

namespace PrinterWiring

namespace Enumerated

variable {κ : Type} [DecidableEq κ] [Enumerated κ] {name : κ → String}

/-- What is said of all values is decided by going through the list. -/
instance decidableForall {p : κ → Prop} [DecidablePred p] : Decidable (∀ k, p k) :=
  decidable_of_iff (∀ k ∈ (all : List κ), p k) ⟨fun each k => each k (mem_all k), fun each k _ => each k⟩

private theorem injective_of_nodup (distinct : ((all : List κ).map name).Nodup) : Function.Injective name :=
  fun j k same => List.inj_on_of_nodup_map distinct (mem_all j) (mem_all k) same

theorem named?_name (injective : Function.Injective name) (k : κ) : named? name (name k) = some k := by
  cases found : named? name (name k) with
  | none => exact absurd (List.find?_eq_none.1 found k (mem_all k)) (by simp)
  | some j =>
    have same : name j = name k := by simpa using List.find?_some found
    rw [injective same]

theorem name_of_named? {s : String} {k : κ} (named : named? name s = some k) : name k = s := by
  simpa using List.find?_some named

theorem named?_eq_none {s : String} : named? name s = none ↔ s ∉ (all : List κ).map name := by
  simp [named?]

end Enumerated

theorem Role.name_injective : Function.Injective name := Enumerated.injective_of_nodup (by decide)

theorem Slot.name_injective : Function.Injective name := Enumerated.injective_of_nodup (by decide)

theorem Kinematics.name_injective : Function.Injective name := Enumerated.injective_of_nodup (by decide)

theorem Driver.name_injective : Function.Injective name := Enumerated.injective_of_nodup (by decide)

theorem ProbeKind.name_injective : Function.Injective name := Enumerated.injective_of_nodup (by decide)

theorem ZStop.name_injective : Function.Injective name := Enumerated.injective_of_nodup (by decide)

theorem SettingKey.name_injective : Function.Injective name := Enumerated.injective_of_nodup (by decide +kernel)

theorem SettingKey.named?_name (k : SettingKey) : named? k.name = some k := Enumerated.named?_name name_injective k

/-! Choices are read from their own names, although they are read in any letter case. -/

theorem Kinematics.parse_name (k : Kinematics) : parse k.name = .ok k := by cases k <;> decide +kernel

theorem Driver.parse_name (d : Driver) : parse d.name = .ok d := by cases d <;> decide +kernel

theorem ProbeKind.parse_name (p : ProbeKind) : parse p.name = .ok p := by cases p <;> decide +kernel

theorem ZStop.parse_name (z : ZStop) : parse z.name = .ok z := by cases z <;> decide +kernel

theorem PrinterFunction.key_injective : Function.Injective key := Enumerated.injective_of_nodup (by decide +kernel)

theorem PrinterFunction.not_mem_key (f : PrinterFunction) : ':' ∉ f.key.toList := by
  revert f
  decide +kernel

/-- A function is read by its key, although keys are read in any letter case and beside other names. -/
theorem PrinterFunction.parse?_key (f : PrinterFunction) : parse? f.key = some f := by
  revert f
  decide +kernel

end PrinterWiring
