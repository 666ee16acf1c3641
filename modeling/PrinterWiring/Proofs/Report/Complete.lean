import PrinterWiring.PrinterConfig.Render
import PrinterWiring.Proofs.Session.Pins

/-!
# Sessions that lack nothing

A session has no gaps exactly if it is complete (`gaps_eq_nil_iff`). Every gap makes a strict rendering fail, as a
missing field or as a pin that is not wired, and what is rendered strictly is what is rendered as a draft
(`render_strict_eq_ok`).
-/

namespace PrinterWiring

/-- A report whose problems are missing fields or have a place has an error as soon as it has a problem. -/
theorem Report.error?_eq_none {r : Report} (told : ∀ p ∈ r.problems, p.kind = .missingField ∨ p.place.isSome) :
    r.error? = none ↔ r.problems = [] := by
  constructor
  · intro fine
    unfold error? at fine
    split at fine
    · next all =>
      have places : r.problems.filterMap (·.place) = [] := by simpa using fine
      refine List.eq_nil_iff_forall_not_mem.mpr fun p inside => ?_
      rcases told p inside with missing | placed
      · have field : p.field ∈ r.missingFields :=
          List.mem_map.mpr ⟨p, List.mem_filter.mpr ⟨inside, decide_eq_true missing⟩, rfl⟩
        rw [List.isEmpty_iff.mp all] at field
        cases field
      · rw [List.filterMap_eq_nil_iff.mp places p inside] at placed
        cases placed
    · cases fine
  · intro none
    simp [error?, missingFields, none]

theorem Gap.told (g : Gap) : g.toProblem.kind = .missingField ∨ g.toProblem.place.isSome := by
  cases g <;> simp [toProblem]

namespace Session

variable {s : Session}

/-- A review has no error if there are no gaps. -/
theorem error?_review : s.review.error? = none ↔ s.gaps = [] := by
  have told : ∀ p ∈ s.review.problems, p.kind = .missingField ∨ p.place.isSome := by
    intro p inside
    obtain ⟨g, _, rfl⟩ := List.mem_map.mp inside
    exact g.told
  rw [Report.error?_eq_none told, review, List.map_eq_nil_iff]

/-! ## What is needed -/

/-- A session that lacks nothing: the mainboard and the settings without defaults are chosen, every function that a
printer needs is assigned, every axis has something to home against, and a probe that needs a servo has one. -/
structure Complete (s : Session) : Prop where
  mainboard : s.hasBoard .mainboard = true
  kinematics : s.settings.kinematics.isSome
  bedSizeX : s.settings.bedSizeX.isSome
  bedSizeY : s.settings.bedSizeY.isSome
  required : ∀ f ∈ requiredFunctions, s.isAssigned f = true
  bed : s.isAssigned .bedHeater = s.isAssigned .bedThermistor
  homes : ∀ a, s.homingSource a ≠ .missing
  probed : ∀ a, s.homingSource a = .probe → s.isAssigned .probe = true
  servo : ∀ kind, s.settings.probeKind = some kind → kind.needsServo = true → s.isAssigned .probe = true →
    ∃ v, s.pin? ⟨.probe, .primary⟩ .servo = some v

private theorem gapIf_eq_nil {missing : Bool} {g : Gap} : gapIf missing g = [] ↔ missing = false := by
  cases missing <;> simp [gapIf]

private theorem settingGaps_eq_nil :
    s.settingGaps = [] ↔ s.hasBoard .mainboard = true ∧ s.settings.kinematics.isSome ∧ s.settings.bedSizeX.isSome ∧
      s.settings.bedSizeY.isSome := by
  simp [settingGaps, gapIf_eq_nil, Option.isNone_eq_false_iff]

private theorem functionGaps_eq_nil :
    s.functionGaps = [] ↔ (∀ f ∈ requiredFunctions, s.isAssigned f = true) ∧
      s.isAssigned .bedHeater = s.isAssigned .bedThermistor := by
  simp only [functionGaps, List.append_eq_nil_iff, List.flatMap_eq_nil_iff, gapIf_eq_nil, Bool.not_eq_false', and_assoc]
  refine and_congr_right fun _ => ?_
  cases s.isAssigned .bedHeater <;> cases s.isAssigned .bedThermistor <;> decide

private theorem homingGaps_eq_nil {a : HomingAxis} :
    s.homingGaps a = [] ↔ s.homingSource a ≠ .missing ∧ (s.homingSource a = .probe → s.isAssigned .probe = true) := by
  unfold homingGaps
  cases s.homingSource a <;> simp [gapIf_eq_nil]

private theorem servoGaps_eq_nil :
    s.servoGaps = [] ↔ ∀ kind, s.settings.probeKind = some kind → kind.needsServo = true →
      s.isAssigned .probe = true → ∃ v, s.pin? ⟨.probe, .primary⟩ .servo = some v := by
  unfold servoGaps
  cases held : s.port? ⟨.probe, .primary⟩ with
  | none =>
    have unassigned : s.isAssigned .probe = false := by
      rw [Bool.eq_false_iff]
      intro assigned
      obtain ⟨a, other⟩ := isAssigned_iff.mp assigned
      cases held.symm.trans other
    simp [unassigned]
  | some port =>
    have assigned : s.isAssigned .probe = true := isAssigned_iff.mpr ⟨port, held⟩
    cases s.settings.probeKind with
    | none => simp
    | some kind => simp [gapIf_eq_nil, assigned, Option.isSome_iff_exists]

/-- Nothing is missing from a complete session, and from no other. -/
theorem gaps_eq_nil_iff : s.gaps = [] ↔ s.Complete := by
  simp only [gaps, List.append_eq_nil_iff, List.flatMap_eq_nil_iff, settingGaps_eq_nil, functionGaps_eq_nil,
    homingGaps_eq_nil, servoGaps_eq_nil]
  constructor
  · rintro ⟨⟨⟨⟨mainboard, kinematics, bedSizeX, bedSizeY⟩, required, bed⟩, homing⟩, servo⟩
    exact
      { mainboard, kinematics, bedSizeX, bedSizeY, required, bed, servo
        homes := fun a => (homing a (Enumerated.mem_all a)).1
        probed := fun a => (homing a (Enumerated.mem_all a)).2 }
  · intro complete
    exact ⟨⟨⟨⟨complete.mainboard, complete.kinematics, complete.bedSizeX, complete.bedSizeY⟩, complete.required,
      complete.bed⟩, fun a _ => ⟨complete.homes a, complete.probed a⟩⟩, complete.servo⟩

/-! ## Strict renderings -/

/-- A strict rendering is the draft, unless the review has an error. -/
theorem render_strict : s.render .strict = match s.review.error? with
    | some e => .error e
    | none => s.render .placeholder := by
  simp only [render]
  cases s.review.error? <;> rfl

/-- A session is rendered strictly exactly if it is complete, and then as it is rendered as a draft. -/
theorem render_strict_eq_ok {r : Rendered} :
    s.render .strict = .ok r ↔ s.Complete ∧ s.render .placeholder = .ok r := by
  rw [← gaps_eq_nil_iff, ← error?_review, render_strict]
  cases s.review.error? <;> simp

/-- What is rendered does not depend on the mode. -/
theorem files_of_render {mode : RenderMode} {r : Rendered} (done : s.render mode = .ok r) :
    r.files = s.configLines placeholderPin := by
  have drafted : s.render .placeholder = .ok r := by
    cases mode with
    | placeholder => exact done
    | strict => exact (render_strict_eq_ok.mp done).2
  cases drafted
  rfl

end Session

end PrinterWiring
