import PrinterWiring.Proofs.PrinterConfig.Strict

/-!
# What a strict rendering takes

What `Session.Complete` says by the pins that a session holds can be said by the boards of the catalog: by which
functions have ports, and which pins these ports wire (`Printable`). This is exactly what a strict rendering takes
(`render_strict_iff_printable`), and a refusal names what is missing of it.
-/

namespace PrinterWiring

/-- A function reads every pin that its port wires. -/
theorem exists_request {f : PrinterFunction} {pins : PinSet} {o : PinOptions} {name : PinName} {raw : String}
    (wired : pins.raw? name = some raw) : ∃ r, (pinRequests f pins o).find? (·.name = name) = some r := by
  cases pins with
  | motor m => cases name <;> simp_all [pinRequests, PinSet.raw?]
  | simple pin => cases name <;> simp_all [pinRequests, PinSet.raw?]
  | probe signal servo => cases name <;> simp_all [pinRequests, PinSet.raw?]

namespace Session

/-- The port of a slot wires a pin: the board that is selected for its role has a port with its id and that pin. -/
def Wires (c : Catalog) (s : Session) (k : SlotKey) (name : PinName) : Prop :=
  ∃ a id b p, s.port? k = some a ∧ s.board? a.role = some id ∧ c.board? id = some b ∧ b.port? a.port = some p ∧
    ∃ raw, p.pins.raw? name = some raw

/-- The driver is one that reports stalls, and the port of the first motor of an axis wires the pins on which it does so
and over which it is configured. -/
def StallsOn (c : Catalog) (s : Session) (a : HomingAxis) : Prop :=
  ∃ d bus, s.settings.driver = some d ∧ d.reportsStalls = true ∧ d.busPin? = some bus ∧
    s.Wires c ⟨.stepper a.motor, .primary⟩ .diag ∧ s.Wires c ⟨.stepper a.motor, .primary⟩ bus

/-- What a strict rendering takes. -/
structure Printable (c : Catalog) (s : Session) : Prop where
  mainboard : ∃ id, s.board? .mainboard = some id
  kinematics : ∃ k, s.settings.kinematics = some k
  bedSizeX : ∃ x, s.settings.bedSizeX = some x
  bedSizeY : ∃ y, s.settings.bedSizeY = some y
  required : ∀ f ∈ requiredFunctions, s.isAssigned f = true
  bed : s.isAssigned .bedHeater = s.isAssigned .bedThermistor
  homes : ∀ a, a ≠ .z → s.isAssigned (.endstop a) = true ∨ s.StallsOn c a
  homesZ : s.isAssigned (if s.settings.zStop = .probe then .probe else .endstop .z) = true
  servo : ∀ kind, s.settings.probeKind = some kind → kind.needsServo = true → s.isAssigned .probe = true →
    s.Wires c ⟨.probe, .primary⟩ .servo

variable {c : Catalog} {s : Session} {a : HomingAxis}

/-! ## Wired pins -/

/-- A session holds the pins that its ports wire. -/
theorem wires_iff (sound : s.Sound c) {k : SlotKey} {name : PinName} :
    s.Wires c k name ↔ ∃ v, s.pin? k name = some v := by
  constructor
  · rintro ⟨a, id, b, p, held, selected, known, found, raw, wired⟩
    obtain ⟨w, wiring, rfl⟩ := Option.map_eq_some_iff.mp held
    obtain ⟨id', b', p', selected', known', found', _, _, resolved⟩ := sound.coherent.backed k w wiring
    cases selected.symm.trans selected'
    cases known.symm.trans known'
    cases found.symm.trans found'
    obtain ⟨r, asked⟩ := exists_request (f := k.function) (o := s.optionsOf k.function) wired
    refine ⟨pinText w.port.role raw r.modifiers, pin?_eq_some.mpr ⟨w, wiring, ?_⟩⟩
    rw [Port.get?_of_resolve resolved, asked, wired]
    rfl
  · rintro ⟨v, held⟩
    obtain ⟨w, wiring, held⟩ := pin?_eq_some.mp held
    obtain ⟨id, b, p, selected, known, found, _, _, resolved⟩ := sound.coherent.backed k w wiring
    obtain ⟨raw, _, wired, _⟩ := Port.exists_raw_of_get? resolved held
    exact ⟨w.port, id, b, p, by rw [port?, wiring]; rfl, selected, known, found, raw, wired⟩

private theorem stallsOn_iff (sound : s.Sound c) (able : a ≠ .z) : s.StallsOn c a ↔ ∃ d, s.stallDriver? a = some d := by
  have stalls : a.homesByStall = true := by
    cases a with
    | x | y => rfl
    | z => exact absurd rfl able
  simp only [StallsOn, stallDriver?_eq_some, driverProfile_eq_configured, wires_iff sound, stalls, true_and]
  constructor
  · rintro ⟨d, bus, chosen, reports, named, diag, pin, held⟩
    exact ⟨d, ⟨pin, chosen, bus, named, held⟩, reports, diag⟩
  · rintro ⟨d, ⟨pin, chosen, bus, named, held⟩, reports, diag⟩
    exact ⟨d, bus, chosen, reports, named, diag, pin, held⟩

private theorem isAssigned_endstop_iff (accepted : c.Accepted) (sound : s.Sound c) :
    s.isAssigned (.endstop a) = true ↔ ∃ v, s.pin? ⟨.endstop a, .primary⟩ .pin = some v := by
  constructor
  · exact fun assigned => exists_main_pin accepted sound assigned (List.mem_singleton.mpr rfl)
  · rintro ⟨v, held⟩
    exact isAssigned_of_pin? held

/-! ## Complete sessions -/

private theorem homes_iff (accepted : c.Accepted) (sound : s.Sound c) (able : a ≠ .z) :
    s.homingSource a ≠ .missing ↔ s.isAssigned (.endstop a) = true ∨ s.StallsOn c a := by
  rw [isAssigned_endstop_iff accepted sound, stallsOn_iff sound able]
  exact homingSource_ne_missing.trans (or_iff_right fun probed => able probed.1)

/-- The height can find its home if the probe or the endstop that it is set to has a port. -/
theorem homesZ_iff (accepted : c.Accepted) (sound : s.Sound c) :
    (s.homingSource .z ≠ .missing ∧ (s.homingSource .z = .probe → s.isAssigned .probe = true)) ↔
      s.isAssigned (if s.settings.zStop = .probe then .probe else .endstop .z) = true := by
  rw [homingSource_ne_missing, homingSource_eq_probe, ← isAssigned_endstop_iff accepted sound]
  have unable : ¬ ∃ d, s.stallDriver? .z = some d := by
    rintro ⟨d, stalls⟩
    exact absurd (stallDriver?_eq_some.mp stalls).2.1 (by decide)
  by_cases probed : s.settings.zStop = .probe
  · simp [probed]
  · simp [probed, unable]

/-- Over an accepted catalog a sound session is complete just if it can be printed with. -/
theorem complete_iff_printable (accepted : c.Accepted) (sound : s.Sound c) : s.Complete ↔ s.Printable c := by
  constructor
  · intro complete
    exact
      { mainboard := Table.contains_iff.mp complete.mainboard
        kinematics := Option.isSome_iff_exists.mp complete.kinematics
        bedSizeX := Option.isSome_iff_exists.mp complete.bedSizeX
        bedSizeY := Option.isSome_iff_exists.mp complete.bedSizeY
        required := complete.required
        bed := complete.bed
        homes := fun a able => (homes_iff accepted sound able).mp (complete.homes a)
        homesZ := (homesZ_iff accepted sound).mp ⟨complete.homes .z, complete.probed .z⟩
        servo := fun kind chosen needs assigned => (wires_iff sound).mpr (complete.servo kind chosen needs assigned) }
  · intro printable
    have homesZ := (homesZ_iff accepted sound).mpr printable.homesZ
    exact
      { mainboard := Table.contains_iff.mpr printable.mainboard
        kinematics := Option.isSome_iff_exists.mpr printable.kinematics
        bedSizeX := Option.isSome_iff_exists.mpr printable.bedSizeX
        bedSizeY := Option.isSome_iff_exists.mpr printable.bedSizeY
        required := printable.required
        bed := printable.bed
        homes := fun a => by
          cases a with
          | x => exact (homes_iff accepted sound (by decide)).mpr (printable.homes .x (by decide))
          | y => exact (homes_iff accepted sound (by decide)).mpr (printable.homes .y (by decide))
          | z => exact homesZ.1
        probed := fun a source => by
          obtain ⟨rfl, _⟩ := homingSource_eq_probe.mp source
          exact homesZ.2 source
        servo := fun kind chosen needs assigned => (wires_iff sound).mp (printable.servo kind chosen needs assigned) }

/-! ## Refusals -/

private theorem mem_gapIf {missing : Bool} {g h : Gap} : g ∈ gapIf missing h ↔ missing = true ∧ g = h := by
  cases missing <;> simp [gapIf]

/-- A servo is only missing at the port of the probe. -/
theorem port?_of_servo {kind : ProbeKind} {port : Address} (found : Gap.servo kind port ∈ s.gaps) :
    s.port? ⟨.probe, .primary⟩ = some port := by
  simp only [gaps, List.mem_append, List.mem_flatMap] at found
  rcases found with ((setting | function) | ⟨axis, _, homing⟩) | servo
  · simp [settingGaps, mem_gapIf] at setting
  · simp [functionGaps, mem_gapIf] at function
  · unfold homingGaps at homing
    cases source : s.homingSource axis <;> simp [source, mem_gapIf] at homing
  · unfold servoGaps at servo
    split at servo
    · next port' kind' held _ =>
      obtain ⟨_, same⟩ := mem_gapIf.mp servo
      cases same
      exact held
    · cases servo

/-- The only pin that can be missing from a port is that of a servo. -/
theorem servo_of_place {p : Problem} (found : p ∈ s.review.problems) {port : Address} {missing : PinName}
    (place : p.place = some (port, missing)) : missing = .servo ∧ s.port? ⟨.probe, .primary⟩ = some port := by
  obtain ⟨g, gap, rfl⟩ := List.mem_map.mp found
  cases g with
  | servo kind port' =>
    cases place
    exact ⟨rfl, port?_of_servo gap⟩
  | mainboard | setting _ | port _ | homing _ | homingProbe => cases place

/-- The error of a strict rendering names the missing fields if there are any, and else the servo of the probe. -/
theorem refusal_of_render {e : WiringError} (refused : s.render .strict = .error e) :
    (s.review.missingFields ≠ [] ∧ e = .missingFields s.review.missingFields) ∨
      (s.review.missingFields = [] ∧
        ∃ port, s.port? ⟨.probe, .primary⟩ = some port ∧ e = .pinNotWired port.port .servo) := by
  have told : s.review.error? = some e := by
    rw [render_strict] at refused
    cases given : s.review.error? with
    | none => simp [given, render] at refused
    | some e' =>
      simp only [given, Except.error.injEq] at refused
      rw [refused]
  unfold Report.error? at told
  split at told
  · next all =>
    obtain ⟨⟨port, missing⟩, first, rfl⟩ := Option.map_eq_some_iff.mp told
    obtain ⟨p, found, place⟩ := List.mem_filterMap.mp (List.mem_of_head? first)
    obtain ⟨rfl, held⟩ := servo_of_place found place
    exact .inr ⟨List.isEmpty_iff.mp all, port, held, rfl⟩
  · next some =>
    cases told
    exact .inl ⟨fun nothing => some (List.isEmpty_iff.mpr nothing), rfl⟩

/-- A reachable session is rendered strictly exactly if it has what that takes, which is to say that its report has no
problems. It is then rendered as its draft. If it is refused, it is for the missing fields of the report, all of them,
or, if there are none, for the servo of the probe. -/
theorem render_strict_iff_printable (accepted : c.Accepted) (ops : List Operation) :
    ((∃ r, (reached c ops).render .strict = .ok r) ↔ (reached c ops).Printable c) ∧
      ((reached c ops).Printable c ↔ (reached c ops).review.isValid = true) ∧
      (∀ e, (reached c ops).render .strict = .error e →
        ((reached c ops).review.missingFields ≠ [] ∧ e = .missingFields (reached c ops).review.missingFields) ∨
          ((reached c ops).review.missingFields = [] ∧ ∃ port, (reached c ops).port? ⟨.probe, .primary⟩ = some port ∧
            e = .pinNotWired port.port .servo)) ∧
      ∀ r, (reached c ops).render .strict = .ok r → (reached c ops).render .placeholder = .ok r := by
  have sound : (reached c ops).Sound c := (invariant_sound c).reached ops
  have complete := complete_iff_printable accepted sound
  refine ⟨?_, ?_, fun e refused => refusal_of_render refused, fun r done => (render_strict_eq_ok.mp done).2⟩
  · rw [← complete]
    constructor
    · rintro ⟨r, done⟩
      exact (render_strict_eq_ok.mp done).1
    · exact fun holds => ⟨_, render_strict_eq_ok.mpr ⟨holds, rfl⟩⟩
  · rw [← complete, ← gaps_eq_nil_iff, Report.isValid, List.isEmpty_iff, review, List.map_eq_nil_iff]

/-- The printer with a toolboard has all that a strict rendering takes. -/
theorem toolboardPrinter_printable :
    (reached Catalog.builtin [.restore toolboardPrinter]).Printable Catalog.builtin := by
  have done := render_strict (s := reached Catalog.builtin [.restore toolboardPrinter])
  rw [reached_restore, review_toolboardPrinter, ← reached_restore] at done
  exact (render_strict_iff_printable Catalog.accepted_builtin [.restore toolboardPrinter]).1.mp ⟨_, done⟩

end Session

end PrinterWiring
