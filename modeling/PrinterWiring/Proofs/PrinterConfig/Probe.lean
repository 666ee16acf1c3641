import PrinterWiring.Proofs.PrinterConfig.WellFormed
import PrinterWiring.Proofs.Report.Warnings

/-!
# What the report says about the probe

The report tells of a probe without a kind, and of a kind without a probe. The configuration has the section of a probe
that has a port, and of one that the Z axis homes against. So the report is right about the probe except where it says
that the section of the probe is left out and the Z axis homes against it, which a strict rendering rules out
(`render_probe`).
-/

namespace PrinterWiring

open ConfigLine

/-- The report says that the section of the probe is left out. -/
def Report.SaysSkipped (report : Report) : Prop := ∃ kind, (Caution.probeSkipped kind).message ∈ report.warnings

/-- The report says that the section of the probe is rendered although no kind is set. -/
def Report.SaysUnset (report : Report) : Prop := Caution.probeKindUnset.message ∈ report.warnings

/-- Whether a configuration has a section with a name. -/
def Rendered.Has (r : Rendered) (name : String) : Prop := name ∈ r.sections.map (·.name)

namespace Session

/-- The probe has a port, or the Z axis homes against it. -/
def Probes (s : Session) : Prop := s.isAssigned .probe = true ∨ s.settings.zStop = .probe

/-- What a configuration has of a probe, and what the report says about it. -/
structure TellsProbe (s : Session) (r : Rendered) : Prop where
  probe : r.Has "probe" ↔ s.Probes ∧ s.settings.probeKind ≠ some .bltouch
  bltouch : r.Has "bltouch" ↔ s.Probes ∧ s.settings.probeKind = some .bltouch
  unset : s.review.SaysUnset ↔ s.isAssigned .probe = true ∧ s.settings.probeKind = none
  skipped : s.review.SaysSkipped ↔ s.isAssigned .probe = false ∧ ∃ kind, s.settings.probeKind = some kind

variable {s : Session} {gap : String} {b : ConfigBlock} {mode : RenderMode} {r : Rendered} {name : String}

/-! ## Warnings -/

private theorem mem_warnings_probe {c : Caution} (probe : c.topic = SettingKey.probeKind.name) :
    c.message ∈ s.review.warnings ↔ ∃ c' ∈ s.probeCautions, c'.message = c.message := by
  rw [← List.mem_map, ← probeWarnings_review, Report.probeWarnings, Report.about, List.mem_filter,
    Caution.firstWord?_message, probe, decide_eq_true rfl, and_iff_left rfl]

private theorem message_ne (kind : ProbeKind) :
    Caution.probeKindUnset.message ≠ (Caution.probeSkipped kind).message := by
  cases kind <;> decide +kernel

/-- It is said that no kind is set if the probe has a port but no kind. -/
theorem saysUnset_iff : s.review.SaysUnset ↔ s.isAssigned .probe = true ∧ s.settings.probeKind = none := by
  rw [Report.SaysUnset, mem_warnings_probe rfl]
  unfold probeCautions
  cases s.isAssigned .probe <;> cases kind : s.settings.probeKind <;> simp [(message_ne _).symm]

/-- It is said that the probe is left out if it has a kind but no port. -/
theorem saysSkipped_iff :
    s.review.SaysSkipped ↔ s.isAssigned .probe = false ∧ ∃ kind, s.settings.probeKind = some kind := by
  constructor
  · rintro ⟨kind, listed⟩
    obtain ⟨c, listed, same⟩ := (mem_warnings_probe rfl).mp listed
    unfold probeCautions at listed
    split at listed
    · rw [List.mem_singleton.mp listed] at same
      exact absurd same (message_ne kind)
    · next unassigned set => exact ⟨unassigned, _, set⟩
    · cases listed
  · rintro ⟨unassigned, kind, set⟩
    refine ⟨kind, (mem_warnings_probe rfl).mpr ⟨.probeSkipped kind, ?_, rfl⟩⟩
    rw [probeCautions, unassigned, set]
    exact List.mem_singleton.mpr rfl

/-! ## Sections -/

private theorem has_iff (done : s.render mode = .ok r) :
    r.Has name ↔ ∃ b ∈ s.configBlocks placeholderPin, name ∈ sectionNames b.lines := by
  rw [Rendered.Has, ((sections_perm done).map _).mem_iff, List.map_flatMap, List.mem_flatMap]
  rfl

/-- Only the blocks of the probe set one up. -/
theorem mem_probeBlocks (here : b ∈ s.configBlocks gap) (inside : name ∈ sectionNames b.lines)
    (own : name ∈ ["bltouch", "probe"]) : b ∈ s.probeBlocks gap := by
  have listed : ⟨s.probeBlocks gap, ["bltouch", "probe"] ++ ["safe_z_home", "bed_mesh"]⟩ ∈ groups gap s := by
    simp [groups]
  exact mem_group listed here inside (List.mem_append_left _ own)

private theorem has_probe_iff (done : s.render mode = .ok r) (own : name ∈ ["bltouch", "probe"]) :
    r.Has name ↔ name ∈ namesOf (s.probeBlocks placeholderPin) := by
  rw [has_iff done, namesOf, List.mem_flatMap]
  constructor
  · rintro ⟨b, here, inside⟩
    exact ⟨b, mem_probeBlocks here inside own, inside⟩
  · rintro ⟨b, here, inside⟩
    exact ⟨b, mem_of_probe here, inside⟩

/-- The sections of the probe, the homing position and the mesh. -/
theorem namesOf_probeBlocks (gap : String) (s : Session) :
    namesOf (s.probeBlocks gap) =
      (if s.settings.zStop = .probe ∨ s.isAssigned .probe = true then
        [if s.settings.probeKind = some .bltouch then "bltouch" else "probe"] else []) ++
        if s.settings.zStop = .probe then ["safe_z_home", "bed_mesh"] else [] := by
  have touch : s.settings.probeKind.getD .proximity = .bltouch ↔ s.settings.probeKind = some .bltouch := by
    cases s.settings.probeKind <;> simp
  by_cases kind : s.settings.probeKind = some .bltouch <;> by_cases homes : s.settings.zStop = .probe <;>
    cases assigned : s.isAssigned .probe <;> simp [probeBlocks, touch, kind, homes, assigned, namesOf]

private theorem tellsProbe (done : s.render mode = .ok r) : s.TellsProbe r where
  probe := by
    rw [has_probe_iff done (by decide), namesOf_probeBlocks, Probes]
    by_cases kind : s.settings.probeKind = some .bltouch <;> by_cases homes : s.settings.zStop = .probe <;>
      simp [kind, homes]
  bltouch := by
    rw [has_probe_iff done (by decide), namesOf_probeBlocks, Probes]
    by_cases kind : s.settings.probeKind = some .bltouch <;> by_cases homes : s.settings.zStop = .probe <;>
      simp [kind, homes]
  unset := saysUnset_iff
  skipped := saysSkipped_iff

private theorem TellsProbe.neither_iff (tells : s.TellsProbe r) : ¬ r.Has "probe" ∧ ¬ r.Has "bltouch" ↔ ¬ s.Probes := by
  rw [tells.probe, tells.bltouch]
  by_cases kind : s.settings.probeKind = some .bltouch <;> simp [kind]

/-- In every rendering there is a section of the probe exactly if the probe has a port or the Z axis homes against it.
That it is rendered without a kind is true whenever the report says it. That it is left out is true exactly if the Z
axis does not home against it, and always in a strict rendering. -/
theorem render_probe (done : s.render mode = .ok r) :
    s.TellsProbe r ∧ (s.review.SaysUnset → r.Has "probe") ∧
      (s.review.SaysSkipped → (¬ r.Has "probe" ∧ ¬ r.Has "bltouch" ↔ s.settings.zStop ≠ .probe)) ∧
      (mode = .strict → s.review.SaysSkipped → ¬ r.Has "probe" ∧ ¬ r.Has "bltouch") := by
  have tells := tellsProbe done
  have left : s.review.SaysSkipped → (¬ r.Has "probe" ∧ ¬ r.Has "bltouch" ↔ s.settings.zStop ≠ .probe) := by
    intro told
    obtain ⟨unassigned, _⟩ := tells.skipped.mp told
    rw [tells.neither_iff, Probes, unassigned]
    simp
  refine ⟨tells, ?_, left, ?_⟩
  · intro told
    obtain ⟨assigned, unset⟩ := tells.unset.mp told
    exact tells.probe.mpr ⟨.inl assigned, by simp [unset]⟩
  · rintro rfl told
    -- What a strict rendering homes against has a port, and what is said to be left out has none.
    refine (left told).mpr fun homes => ?_
    obtain ⟨unassigned, _⟩ := tells.skipped.mp told
    have assigned : s.isAssigned .probe = true :=
      (render_strict_eq_ok.mp done).1.probed .z (homingSource_eq_probe.mpr ⟨rfl, homes⟩)
    cases unassigned.symm.trans assigned

/-- A printer with a kind of probe and no port for it. -/
def portlessProbe (stop : ZStop) : Document :=
  { Document.empty with settings := { Settings.standard with probeKind := some .klicky, zStop := stop } }

/-- A probe of a kind but without a port. -/
theorem portlessProbe_skipped : ∃ r, (restore Catalog.builtin (portlessProbe .switch)).1.render .placeholder = .ok r ∧
    (restore Catalog.builtin (portlessProbe .switch)).1.review.SaysSkipped ∧ ¬ r.Has "probe" ∧ ¬ r.Has "bltouch" := by
  obtain ⟨r, done⟩ : ∃ r, (restore Catalog.builtin (portlessProbe .switch)).1.render .placeholder = .ok r := ⟨_, rfl⟩
  have told : (restore Catalog.builtin (portlessProbe .switch)).1.review.SaysSkipped :=
    saysSkipped_iff.mpr ⟨by decide +kernel, .klicky, by decide +kernel⟩
  exact ⟨r, done, told, ((render_probe done).2.2.1 told).mpr (by decide +kernel)⟩

/-- Where the Z axis homes against a probe without a port, the section is said to be left out and is there. -/
theorem portlessProbe_not_skipped : ¬ ∀ (d : Document) (r : Rendered),
    (restore Catalog.builtin d).1.render .placeholder = .ok r → (restore Catalog.builtin d).1.review.SaysSkipped →
      ¬ r.Has "probe" ∧ ¬ r.Has "bltouch" := by
  intro each
  obtain ⟨r, done⟩ : ∃ r, (restore Catalog.builtin (portlessProbe .probe)).1.render .placeholder = .ok r := ⟨_, rfl⟩
  have told : (restore Catalog.builtin (portlessProbe .probe)).1.review.SaysSkipped :=
    saysSkipped_iff.mpr ⟨by decide +kernel, .klicky, by decide +kernel⟩
  have homes : (restore Catalog.builtin (portlessProbe .probe)).1.settings.zStop = .probe := by decide +kernel
  exact (tellsProbe done).neither_iff.mp (each _ r done told) (.inr homes)

end Session

end PrinterWiring
