import PrinterWiring.Proofs.CommandLine.Effect
import PrinterWiring.Proofs.Preferences.RoundTrip

/-!
# Setting one preference

To set a preference should change that one alone, or else nothing (`EditsOneKey`). What is saved can be read again, and
holds the new value; but preferences that could not be loaded, because the catalog that they name is gone or the file
is no TOML, are taken for standard ones and lost, and a catalog that has the temporary name of the file is lost in
saving. `edits_one_key_iff` says exactly when the one preference is changed alone.
-/

namespace PrinterWiring.CommandLine

open Preferences (SameBut stated?)

variable {h : Host} {key v : String} {given : Option String} {k : PreferenceKey} {p before after : Preferences}

/-- What is expected of a command that sets a preference: it fails and leaves the files as they were, or it succeeds and
the file can be loaded, with the new value for the key and what the file said before for every other. -/
def EditsOneKey (h : Host) (key v : String) (given : Option String) : Prop :=
  let done := (Command.setPreference key v given).run h
  (done.exitCode ≠ 0 ∧ done.files h.files = h.files) ∨
    ∃ k before after, done.exitCode = 0 ∧ PreferenceKey.named? key = some k ∧
      stated? h.files (h.preferencesPath given) = some before ∧
      Preferences.load (done.files h.files) (h.preferencesPath given) = .ok after ∧
      after.Holds k (Text.trim v) ∧ SameBut k after before

/-- Whether preferences name no catalog that is gone once they are saved, because it has the temporary name. -/
def SparesCatalog (path : String) (p : Preferences) : Prop :=
  ∀ catalog, p.catalog = some catalog →
    Path.place catalog = Path.place (Path.withExtension "toml.tmp" path) → Path.place catalog = Path.place path

/-- What replaces the file of preferences. -/
def preferring (path : String) (p : Preferences) : Replacement := ⟨path, Path.withExtension "toml.tmp" path, p.toText⟩

/-- What was saved is loaded, unless its catalog was lost in saving. -/
theorem load_preferring {fs : Files} {path : String} (usable : Path.Usable path) (checked : p.check fs = .ok ()) :
    Preferences.load (fs.replace (preferring path p)) path = .ok after ↔ p = after ∧ SparesCatalog path p := by
  have read : (fs.replace (preferring path p)).read path = .ok p.toText :=
    Files.read_replace (r := preferring path p) fs usable
  have stated : stated? (fs.replace (preferring path p)) path = some p := by
    rw [stated?, if_pos (Files.exists?_of_read read), Files.text?, read]
    exact Preferences.read?_toText p
  obtain ⟨files, filled⟩ := Preferences.check_eq_ok.1 checked
  rw [Preferences.load_eq_ok, stated, Option.some.injEq, and_congr_right_iff]
  rintro rfl
  rw [Preferences.check_eq_ok, and_iff_left filled]
  exact forall₂_congr fun catalog named => Files.isFile_replace (preferring path p) (files catalog named)

/-- The preferences that a command changes: what was loaded, or else standard ones. -/
def basis (h : Host) (given : Option String) : Preferences :=
  (Preferences.load h.files (h.preferencesPath given)).toOption.getD .standard

/-- What a command that sets a preference replaces if it succeeds. -/
theorem run_setPreference {rs : List Replacement} :
    ((Command.setPreference key v given).run h).exitCode = 0 ∧ ((Command.setPreference key v given).run h).effects = rs ↔
      ∃ k p, PreferenceKey.named? key = some k ∧ (basis h given).put k (Text.trim v) = .ok p ∧
        p.check h.files = .ok () ∧ rs = [preferring (h.preferencesPath given) p] := by
  have unchanged : ({ h with files := Course.files h.files .begun } : Host) = h := rfl
  refine Action.outcome_eq_ok.trans ?_
  simp only [Command.action, setPreference, Action.perform_bind_eq_ok, Action.perform_here, Action.perform_lift,
    Action.perform_replace, Action.perform_print, unchanged, Prod.mk.injEq, mapError_eq_ok, Preferences.set_eq_ok,
    Preferences.save_eq_ok, Except.ok.injEq, and_assoc, true_and, exists_eq_left', exists_eq_left, exists_and_left]
  constructor
  · rintro ⟨_, ⟨p, ⟨k, named, changed, checked⟩, _, _, rfl⟩, rfl⟩
    exact ⟨k, named, p, changed, checked, rfl⟩
  · rintro ⟨k, named, p, changed, checked, rfl⟩
    exact ⟨_, ⟨p, ⟨k, named, changed, checked⟩, checked, (), rfl⟩, rfl⟩

/-- What a command that sets a preference and succeeds has done. -/
theorem setPreference_done (succeeded : ((Command.setPreference key v given).run h).exitCode = 0) :
    ∃ k p, PreferenceKey.named? key = some k ∧ (basis h given).put k (Text.trim v) = .ok p ∧
      p.check h.files = .ok () ∧
      ((Command.setPreference key v given).run h).files h.files =
        h.files.replace (preferring (h.preferencesPath given) p) := by
  obtain ⟨k, p, named, changed, checked, replaced⟩ := run_setPreference.1 ⟨succeeded, rfl⟩
  refine ⟨k, p, named, changed, checked, ?_⟩
  rw [Course.files, replaced, List.foldl_cons, List.foldl_nil]

/-- What the file says is what a command changes, or it does not pass its check and the command starts anew. -/
theorem basis_of_stated (stated : stated? h.files (h.preferencesPath given) = some before) :
    (before.check h.files = .ok () ∧ basis h given = before) ∨
      before.check h.files ≠ .ok () ∧ basis h given = .standard := by
  rw [basis]
  by_cases checked : before.check h.files = .ok ()
  · rw [Preferences.load_eq_ok.2 ⟨stated, checked⟩]
    exact .inl ⟨checked, rfl⟩
  · cases loaded : Preferences.load h.files (h.preferencesPath given) with
    | error e => exact .inr ⟨checked, rfl⟩
    | ok p =>
      obtain ⟨stated', checked'⟩ := Preferences.load_eq_ok.1 loaded
      obtain rfl := Option.some.inj (stated.symm.trans stated')
      exact absurd checked' checked

/-- A preference is changed alone by a command that succeeds iff what the file said of the others could be loaded or is
standard, and the catalog is not lost in saving. -/
theorem edits_one_key_iff (usable : Path.Usable (h.preferencesPath given)) :
    EditsOneKey h key v given ↔
      ((Command.setPreference key v given).run h).exitCode ≠ 0 ∨
        ∃ k before after, PreferenceKey.named? key = some k ∧
          stated? h.files (h.preferencesPath given) = some before ∧ before.put k (Text.trim v) = .ok after ∧
          (before.check h.files = .ok () ∨ SameBut k before .standard) ∧
          SparesCatalog (h.preferencesPath given) after := by
  by_cases succeeded : ((Command.setPreference key v given).run h).exitCode = 0
  · obtain ⟨k, p, named, changed, checked, replaced⟩ := setPreference_done succeeded
    rw [EditsOneKey, or_iff_right (fun failed => failed.1 succeeded), or_iff_right (absurd succeeded), replaced]
    constructor
    · rintro ⟨k', before, after, _, named', stated, loaded, holds, same⟩
      obtain rfl := Option.some.inj (named.symm.trans named')
      obtain ⟨rfl, spares⟩ := (load_preferring usable checked).1 loaded
      refine ⟨k, before, p, named, stated, Preferences.put_eq_ok.2 ⟨holds, same⟩, ?_, spares⟩
      rcases basis_of_stated stated with ⟨passed, _⟩ | ⟨_, anew⟩
      · exact .inl passed
      · rw [anew] at changed
        exact .inr (same.symm.trans (Preferences.put_eq_ok.1 changed).2)
    · rintro ⟨k', before, after, named', stated, edited, kept, spares⟩
      obtain rfl := Option.some.inj (named.symm.trans named')
      obtain ⟨holds, same⟩ := Preferences.put_eq_ok.1 changed
      have alone : SameBut k p before := by
        rcases basis_of_stated stated with ⟨_, loaded⟩ | ⟨failed, anew⟩
        · rwa [loaded] at same
        · rw [anew] at same
          exact same.trans (kept.resolve_left failed).symm
      obtain rfl := Except.ok.inj (edited.symm.trans (Preferences.put_eq_ok.2 ⟨holds, alone⟩))
      exact ⟨k, before, after, succeeded, named, stated, (load_preferring usable checked).2 ⟨rfl, spares⟩, holds, alone⟩
  · exact iff_of_true (.inl ⟨succeeded, files_of_failure succeeded⟩) (.inl succeeded)

/-- Preferences that name a catalog. -/
def withCatalog : Preferences := ⟨some "boards.json", "out", .strict⟩

/-- A user who saved them, among other files. -/
def savedAmong (others : Files) : Host :=
  ⟨others.replace (preferring "config/config.toml" withCatalog), "config/config.toml"⟩

private theorem usable_savedAmong (others : Files) : Path.Usable ((savedAmong others).preferencesPath none) := by
  show Path.Usable "config/config.toml"
  exact ⟨by decide, by simp, by decide, by decide +kernel⟩

private theorem stated?_savedAmong (others : Files) :
    stated? (savedAmong others).files ((savedAmong others).preferencesPath none) = some withCatalog := by
  have read : (savedAmong others).files.read ((savedAmong others).preferencesPath none) = .ok withCatalog.toText :=
    Files.read_replace (r := preferring "config/config.toml" withCatalog) others (usable_savedAmong others)
  rw [stated?, if_pos (Files.exists?_of_read read), Files.text?, read]
  exact Preferences.read?_toText withCatalog

/-- The catalog that they name. -/
def catalogFile : Files := ⟨[(["boards.json"], "{}")], []⟩

/-- The catalog is there, and the render mode is changed alone. -/
theorem savedAmong_edits :
    Path.Usable ((savedAmong catalogFile).preferencesPath none) ∧
      EditsOneKey (savedAmong catalogFile) "render.mode" "placeholder" none := by
  have passed : withCatalog.check (savedAmong catalogFile).files = .ok () := by decide +kernel
  have spares : SparesCatalog ((savedAmong catalogFile).preferencesPath none) withCatalog := by
    rintro _ ⟨⟩ same
    exact absurd same (by decide)
  refine ⟨usable_savedAmong _, (edits_one_key_iff (usable_savedAmong _)).2 (.inr ?_)⟩
  refine ⟨.mode, withCatalog, { withCatalog with mode := .placeholder }, rfl, stated?_savedAmong _, ?_, .inl passed,
    spares⟩
  rfl

/-- The catalog is gone, and along with the render mode the catalog and the directory are changed. -/
theorem vanishedCatalog_not_edits : ¬ EditsOneKey (savedAmong .empty) "render.mode" "placeholder" none := by
  have gone : withCatalog.check (savedAmong .empty).files ≠ .ok () := by decide +kernel
  have anew : basis (savedAmong .empty) none = .standard :=
    (basis_of_stated (stated?_savedAmong .empty)).elim (fun passed => absurd passed.1 gone) And.right
  rintro (⟨failed, _⟩ | ⟨k, before, after, succeeded, named, stated, loaded, _, same⟩)
  · have passed : (Preferences.mk none "." .placeholder).check (savedAmong .empty).files = .ok () := by decide +kernel
    have changed :
        (basis (savedAmong .empty) none).put .mode (Text.trim "placeholder") = .ok ⟨none, ".", .placeholder⟩ := by
      rw [anew]
      rfl
    exact failed (run_setPreference.2 ⟨.mode, _, rfl, changed, passed, rfl⟩).1
  · obtain ⟨_, p, named', changed, checked, replaced⟩ := setPreference_done succeeded
    obtain rfl := Option.some.inj (named.symm.trans named')
    obtain rfl : k = .mode := Option.some.inj (named.symm.trans rfl)
    obtain rfl := Option.some.inj ((stated?_savedAmong .empty).symm.trans stated)
    rw [replaced] at loaded
    obtain ⟨rfl, _⟩ := (load_preferring (usable_savedAmong .empty) checked).1 loaded
    rw [anew] at changed
    have lost : p.get? .catalog = none := (Preferences.put_eq_ok.1 changed).2 .catalog nofun
    exact absurd (lost.symm.trans (same .catalog nofun)) nofun

end PrinterWiring.CommandLine
