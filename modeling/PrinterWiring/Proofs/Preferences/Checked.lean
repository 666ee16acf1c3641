import Mathlib.Tactic.SplitIfs
import PrinterWiring.Preferences.File
import PrinterWiring.Proofs.Checks

/-!
# Checked preferences

Preferences are set, saved and loaded only if they pass their check (`set_eq_ok`, `save_eq_ok`, `load_eq_ok`), and to
set one leaves the others alone (`put_eq_ok`). What a file says of preferences is apart from that (`stated?`): a file
whose preferences do not pass the check says something, but it is not loaded.
-/

namespace PrinterWiring.Preferences

variable {fs : Files} {p q : Preferences} {k : PreferenceKey} {path v : String}

/-- Whether a preference has the value that a trimmed text stands for. -/
def Holds (p : Preferences) : PreferenceKey → String → Prop
  | .catalog, v => p.catalog = Text.nonEmpty? v
  | .outputDirectory, v => p.outputDirectory = v
  | .mode, v => RenderMode.parse v = .ok p.mode

/-- Whether preferences agree but for one. -/
def SameBut (k : PreferenceKey) (p q : Preferences) : Prop := ∀ other, other ≠ k → p.get? other = q.get? other

theorem SameBut.symm (same : SameBut k p q) : SameBut k q p := fun other apart => (same other apart).symm

theorem SameBut.trans {r : Preferences} (first : SameBut k p q) (second : SameBut k q r) : SameBut k p r :=
  fun other apart => (first other apart).trans (second other apart)

private theorem sameBut_iff :
    SameBut k p q ↔ (k ≠ .catalog → p.catalog = q.catalog) ∧
      (k ≠ .outputDirectory → p.outputDirectory = q.outputDirectory) ∧ (k ≠ .mode → p.mode = q.mode) := by
  have named {m n : RenderMode} : m.name = n.name ↔ m = n := by
    cases m <;> cases n <;> decide
  constructor
  · intro same
    exact ⟨fun apart => same .catalog apart.symm, fun apart => Option.some.inj (same .outputDirectory apart.symm),
      fun apart => named.1 (Option.some.inj (same .mode apart.symm))⟩
  · rintro ⟨catalog, directory, mode⟩ other apart
    cases other with
    | catalog => exact catalog apart.symm
    | outputDirectory => exact congrArg some (directory apart.symm)
    | mode => exact congrArg (some ·.name) (mode apart.symm)

/-- To put a preference is to give it its value and to leave the others alone. -/
theorem put_eq_ok : p.put k v = .ok q ↔ q.Holds k v ∧ SameBut k q p := by
  obtain ⟨catalog, directory, mode⟩ := p
  obtain ⟨catalog', directory', mode'⟩ := q
  rw [sameBut_iff]
  cases k with
  | catalog => simp [put, Holds, eq_comm]
  | outputDirectory => simp [put, Holds, eq_comm, and_left_comm]
  | mode =>
    simp only [put, Holds, map_eq_ok, mapError_eq_ok, Preferences.mk.injEq]
    constructor
    · rintro ⟨m, parsed, rfl, rfl, rfl⟩
      exact ⟨parsed, fun _ => rfl, fun _ => rfl, fun other => absurd rfl other⟩
    · rintro ⟨parsed, catalog, directory, _⟩
      exact ⟨mode', parsed, (catalog nofun).symm, (directory nofun).symm, rfl⟩

/-- Preferences pass if the catalog is a file and the output directory is named. -/
theorem check_eq_ok :
    p.check fs = .ok () ↔ (∀ path, p.catalog = some path → fs.isFile path = true) ∧ p.outputDirectory ≠ "" := by
  obtain ⟨catalog, directory, mode⟩ := p
  by_cases filled : directory = ""
  · cases catalog with
    | none => simp [check, filled, throw_ne_ok]
    | some path => by_cases file : fs.isFile path = true <;> simp [check, filled, file, bind_eq_ok, throw_ne_ok]
  · cases catalog with
    | none => simp [check, filled, pure_eq_ok]
    | some path => by_cases file : fs.isFile path = true <;> simp [check, filled, file, pure_eq_ok, throw_ne_ok]

private theorem check_standard (fs : Files) : standard.check fs = .ok () :=
  check_eq_ok.2 ⟨fun _ held => absurd held nofun, by decide⟩

/-- A preference is set if its key is known, its value is read and the preferences pass. -/
theorem set_eq_ok {key : String} :
    p.set fs key v = .ok q ↔
      ∃ k, PreferenceKey.named? key = some k ∧ p.put k (Text.trim v) = .ok q ∧ q.check fs = .ok () := by
  rw [set]
  cases PreferenceKey.named? key with
  | none => simp [throw_ne_ok]
  | some k =>
    simp only [bind_eq_ok, pure_eq_ok, Option.some.injEq, exists_eq_left']
    constructor
    · rintro ⟨r, changed, ⟨⟩, checked, rfl⟩
      exact ⟨changed, checked⟩
    · rintro ⟨changed, checked⟩
      exact ⟨q, changed, (), checked, rfl⟩

theorem save_eq_ok {r : Replacement} :
    p.save fs path = .ok r ↔ p.check fs = .ok () ∧ r = ⟨path, Path.withExtension "toml.tmp" path, p.toText⟩ := by
  rw [save, bind_eq_ok]
  constructor
  · rintro ⟨⟨⟩, checked, done⟩
    exact ⟨checked, (Except.ok.inj done).symm⟩
  · rintro ⟨checked, rfl⟩
    exact ⟨(), checked, rfl⟩

/-- What the file at a path says of preferences, if it can be read; where there is none, they are standard. -/
def stated? (fs : Files) (path : String) : Option Preferences :=
  if fs.exists? path then (fs.text? path).bind read? else some standard

/-- What the file says is loaded if it passes the check. -/
theorem load_eq_ok : load fs path = .ok p ↔ stated? fs path = some p ∧ p.check fs = .ok () := by
  rw [load, stated?]
  cases there : fs.exists? path with
  | false =>
    rw [if_neg Bool.false_ne_true]
    simp only [Bool.not_false, if_true, pure_eq_ok, Option.some.injEq]
    exact ⟨fun same => ⟨same, same ▸ check_standard fs⟩, And.left⟩
  | true =>
    rw [Files.text?]
    cases fs.read path with
    | error cause => simp [Except.toOption, bind, Except.bind, mapError_error]
    | ok text =>
      rw [if_pos rfl, if_neg (by simp), mapError_ok]
      simp only [bind_eq_ok, Except.ok.injEq, exists_eq_left', Except.toOption, Option.bind_some]
      cases read? text with
      | none => simp [throw_ne_ok]
      | some q =>
        simp only [bind_eq_ok, pure_eq_ok, Option.some.injEq]
        constructor
        · rintro ⟨⟨⟩, checked, rfl⟩
          exact ⟨rfl, checked⟩
        · rintro ⟨rfl, checked⟩
          exact ⟨(), checked, rfl⟩

end PrinterWiring.Preferences
