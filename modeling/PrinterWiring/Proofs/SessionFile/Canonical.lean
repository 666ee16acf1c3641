import PrinterWiring.Proofs.SessionFile.RoundTrip

/-!
# Canonical documents

Which documents are in order and have only values that are kept by their lines, said of their parts
(`kept_stated`, `canonical_of_kept`): these are read back from the files written of them as they were.
-/

namespace PrinterWiring.SessionFile

/-- Settings of which every value is kept by its line. -/
structure Storable (s : Settings) : Prop where
  sizes : ∀ n, s.bedSizeX = some n ∨ s.bedSizeY = some n ∨ s.zHeight = some n → 0 < n
  velocity : 0 < s.maxVelocity
  acceleration : 0 < s.maxAccel
  current : 0 < s.runCurrent
  steps : s.microsteps.toNat ∈ Settings.stepCounts
  texts : ∀ v, s.extruderSensor = some v ∨ s.bedSensor = some v ∨ s.mcuSerial = some v ∨ s.toolboardUuid = some v →
    Plain v ∧ ¬ Quoted v

/-- A document that is in order and has only values that are kept by their lines. -/
structure Canonical (d : Document) : Prop where
  increasing : Increasing d.records
  ports : ∀ r ∈ d.records, Plain r.port
  options : ∀ f o, d.options.get? f = some o → o.isStandard = false
  boards : ∀ role id, d.boards.get? role = some id → Plain id ∧ ¬ Quoted id
  settings : Storable d.settings

private theorem storable_of_kept {s : Settings} (kept : ∀ k v, s.get? k = some v → Kept (.setting k) v) :
    Storable s where
  sizes n given := by
    rcases given with given | given | given
    · exact (kept_measure_iff (by decide)).mp (kept .bedSizeX _ (congrArg (Option.map Settings.wordText) given))
    · exact (kept_measure_iff (by decide)).mp (kept .bedSizeY _ (congrArg (Option.map Settings.wordText) given))
    · exact (kept_measure_iff (by decide)).mp (kept .zHeight _ (congrArg (Option.map Settings.wordText) given))
  velocity := (kept_measure_iff (by decide)).mp (kept .maxVelocity _ rfl)
  acceleration := (kept_measure_iff (by decide)).mp (kept .maxAccel _ rfl)
  current := (kept_measure_iff (by decide)).mp (kept .runCurrent _ rfl)
  steps := kept_microsteps_iff.mp (kept .microsteps _ rfl)
  texts v given := by
    rcases given with given | given | given | given
    · exact (kept_freeText_iff (by decide)).mp (kept .extruderSensor v given)
    · exact (kept_freeText_iff (by decide)).mp (kept .bedSensor v given)
    · exact (kept_freeText_iff (by decide)).mp (kept .mcuSerial v given)
    · exact (kept_freeText_iff (by decide)).mp (kept .toolboardUuid v given)

private theorem kept_size {k : SettingKey} (measure : k ∈ measures) {n? : Option UInt32} {v : String}
    (positive : ∀ n, n? = some n → 0 < n) (shown : n?.map Settings.wordText = some v) : Kept (.setting k) v := by
  obtain ⟨n, given, rfl⟩ := Option.map_eq_some_iff.mp shown
  exact (kept_measure_iff measure).mpr (positive n given)

private theorem kept_of_storable {s : Settings} (storable : Storable s) {k : SettingKey} {v : String}
    (shown : s.get? k = some v) : Kept (.setting k) v := by
  have free (key : k ∈ freeTexts) (given : s.extruderSensor = some v ∨ s.bedSensor = some v ∨ s.mcuSerial = some v ∨
      s.toolboardUuid = some v) : Kept (.setting k) v :=
    (kept_freeText_iff key).mpr (storable.texts v given)
  cases k with
  | kinematics =>
    obtain ⟨a, _, rfl⟩ := Option.map_eq_some_iff.mp shown
    exact kept_kinematics a
  | bedSizeX => exact kept_size (by decide) (fun n given => storable.sizes n (.inl given)) shown
  | bedSizeY => exact kept_size (by decide) (fun n given => storable.sizes n (.inr (.inl given))) shown
  | zHeight => exact kept_size (by decide) (fun n given => storable.sizes n (.inr (.inr given))) shown
  | maxVelocity =>
    cases shown
    exact (kept_measure_iff (by decide)).mpr storable.velocity
  | maxAccel =>
    cases shown
    exact (kept_measure_iff (by decide)).mpr storable.acceleration
  | driver =>
    obtain ⟨a, _, rfl⟩ := Option.map_eq_some_iff.mp shown
    exact kept_driver a
  | runCurrent =>
    cases shown
    exact (kept_measure_iff (by decide)).mpr storable.current
  | microsteps =>
    cases shown
    exact kept_microsteps_iff.mpr storable.steps
  | extruderSensor => exact free (by decide) (.inl shown)
  | bedSensor => exact free (by decide) (.inr (.inl shown))
  | probeKind =>
    obtain ⟨a, _, rfl⟩ := Option.map_eq_some_iff.mp shown
    exact kept_probeKind a
  | zStop =>
    cases shown
    exact kept_zStop _
  | mcuSerial => exact free (by decide) (.inr (.inr (.inl shown)))
  | toolboardUuid => exact free (by decide) (.inr (.inr (.inr shown)))

/-- Places and pin options are kept whatever they are. -/
theorem stated_cases {d : Draft} {t : Target} {v : String} (stated : d.stated t = some v) :
    (∃ role, t = .board role) ∨ (∃ k, t = .setting k) ∨ (∃ k, t = .port k) ∨ Kept t v := by
  cases t with
  | board role => exact .inl ⟨role, rfl⟩
  | setting k => exact .inr (.inl ⟨k, rfl⟩)
  | port k => exact .inr (.inr (.inl ⟨k, rfl⟩))
  | location f =>
    simp only [Draft.stated, Draft.shown, Option.map_eq_some_iff] at stated
    obtain ⟨role, _, rfl⟩ := stated
    exact .inr (.inr (.inr (kept_location f role)))
  | invert f =>
    simp only [Draft.stated] at stated
    split_ifs at stated
    cases stated
    exact .inr (.inr (.inr (kept_invert f true)))
  | pullup f =>
    simp only [Draft.stated] at stated
    split_ifs at stated
    cases stated
    exact .inr (.inr (.inr (kept_pullup f false)))

/-- What a canonical document states is kept. -/
theorem kept_stated {d : Document} (canonical : Canonical d) {t : Target} {v : String}
    (stated : (Draft.ofDocument d).stated t = some v) : Kept t v := by
  rcases stated_cases stated with ⟨role, rfl⟩ | ⟨k, rfl⟩ | ⟨k, rfl⟩ | kept
  · exact kept_board_iff.mpr (canonical.boards role v stated)
  · exact kept_of_storable canonical.settings stated
  · simp only [Draft.stated, Draft.shown, Option.map_eq_some_iff] at stated
    obtain ⟨a, held, rfl⟩ := stated
    exact kept_port_iff.mpr (canonical.ports _ ((get?_ports_ofDocument canonical.increasing).mp held))
  · exact kept

theorem canonical_of_kept {d : Document} (ordered : Ordered d)
    (kept : ∀ t v, (Draft.ofDocument d).stated t = some v → Kept t v) : Canonical d where
  increasing := ordered.records
  ports r inside := by
    have held : (Draft.ofDocument d).ports.get? r.key = some ⟨r.role, r.port⟩ :=
      (get?_ports_ofDocument ordered.records).mpr inside
    refine kept_port_iff.mp (kept (.port r.key) (Address.toText ⟨r.role, r.port⟩) ?_)
    simp only [Draft.stated, Draft.shown, held, Option.map_some]
  options := ordered.options
  boards role id given := kept_board_iff.mp (kept (.board role) id given)
  settings := storable_of_kept fun k v shown => kept (.setting k) v shown

theorem Canonical.ordered {d : Document} (canonical : Canonical d) : Ordered d :=
  ⟨canonical.increasing, canonical.options⟩

/-- A canonical document is read back as it was. -/
theorem Canonical.read_write {d : Document} (canonical : Canonical d) : read (write d) = .ok d :=
  read_write_of_kept canonical.ordered fun _ _ stated => kept_stated canonical stated

end PrinterWiring.SessionFile
