import PrinterWiring.Proofs.PrinterConfig.Coverage
import PrinterWiring.Proofs.Session.History
import PrinterWiring.Proofs.Settings.Store

/-!
# Places on the bed

A printer whose Z axis homes against the probe homes over the middle of the bed and then probes a mesh. Where that is
stands in four sections, and on each axis follows from the size of the bed: both places are in reach for every size,
but the mesh starts 10 mm from the edge and ends 10 mm from the other one, so that on a bed of 20 mm or less nothing is
left between (`render_geometry`).
-/

namespace PrinterWiring

open ConfigLine

/-- The places on one axis, in mm: where the mesh starts and ends, where the Z axis is homed, and how far the axis
goes. -/
@[ext]
structure Span where
  least : Nat
  greatest : Nat
  home : Nat
  limit : Nat

namespace Span

/-- The mesh has an extent, and all places are in reach. -/
structure Sound (x : Span) : Prop where
  extent : x.least < x.greatest
  reach : x.greatest ≤ x.limit
  home : x.home ≤ x.limit

/-- The places on an axis over a bed of a size. They are in reach for every size; the mesh has an extent over beds of
more than 20 mm. -/
structure Over (x : Span) (size : Nat) : Prop where
  limit : x.limit = size
  middle : 2 * x.home ≤ size ∧ size ≤ 2 * x.home + 1
  margins : x.least = 10 ∧ x.greatest + 10 = max size 10
  reach : x.greatest ≤ x.limit ∧ x.home ≤ x.limit
  sound : x.Sound ↔ 20 < size

/-- The places that a rendering lays out. -/
def laid (size : Nat) : Span := ⟨10, size - 10, size / 2, size⟩

/-- The mesh that is laid is over the bed if the bed is large enough. -/
theorem laid_over (size : Nat) : (laid size).Over size where
  limit := rfl
  middle := by
    simp only [laid]
    omega
  margins := by
    simp only [laid, true_and]
    omega
  reach := ⟨Nat.sub_le .., Nat.div_le_self ..⟩
  sound := by
    constructor
    · rintro ⟨extent, -, -⟩
      simp only [laid] at extent
      omega
    · intro wide
      refine ⟨?_, Nat.sub_le .., Nat.div_le_self ..⟩
      simp only [laid]
      omega

end Span

/-- The text of a place on the bed. -/
def placeText (x y : Nat) : String := toString x ++ ", " ++ toString y

/-- An entry of a section says something. -/
def Rendered.Says (r : Rendered) (name key value : String) : Prop :=
  ∃ sec ∈ r.sections, sec.name = name ∧ (key, value) ∈ sec.entries

/-- The places that a configuration names on both axes. -/
structure Rendered.Lays (r : Rendered) (x y : Span) : Prop where
  limitX : r.Says "stepper_x" "position_max" (toString x.limit)
  limitY : r.Says "stepper_y" "position_max" (toString y.limit)
  home : r.Says "safe_z_home" "home_xy_position" (placeText x.home y.home)
  least : r.Says "bed_mesh" "mesh_min" (placeText x.least y.least)
  greatest : r.Says "bed_mesh" "mesh_max" (placeText x.greatest y.greatest)

private theorem placeText_inj {x y x' y' : Nat} : placeText x y = placeText x' y' ↔ x = x' ∧ y = y' := by
  have cut (x y : Nat) : Text.splitFirst? ',' (placeText x y) = some (toString x, " " ++ toString y) := by
    have whole : placeText x y = toString x ++ .singleton ',' ++ (" " ++ toString y) := by
      apply String.toList_inj.mp
      simp [placeText]
    rw [whole]
    refine Text.splitFirst?_append fun comma => ?_
    exact absurd (Text.isDigit_of_mem_toString comma) (by decide)
  constructor
  · intro same
    have parts := cut x y
    rw [same, cut x' y', Option.some.injEq, Prod.mk.injEq, String.append_right_inj] at parts
    exact ⟨(Settings.toString_nat_injective parts.1).symm, (Settings.toString_nat_injective parts.2).symm⟩
  · rintro ⟨rfl, rfl⟩
    rfl

namespace Session

variable {s : Session} {mode : RenderMode} {r : Rendered} {a : HomingAxis} {name key value value' : String}
  {x y x' y' : Span}

/-! ## What a configuration says -/

section
variable (done : s.render mode = .ok r)
include done

/-- A key of a section has one value. -/
theorem says_unique (one : r.Says name key value) (other : r.Says name key value') : value = value' := by
  obtain ⟨sec, inside, rfl, listed⟩ := one
  obtain ⟨sec', inside', same, listed'⟩ := other
  obtain rfl := List.inj_on_of_nodup_map (names_nodup done) inside' inside same
  have entry := List.inj_on_of_nodup_map (keys_nodup done sec' inside) listed listed' rfl
  exact congrArg Prod.snd entry

/-- What the range of an axis says stands in the section of its motor. -/
theorem says_travel (own : entry key value ∈ s.travelLines a) :
    r.Says (PrinterFunction.stepper a.motor).key key value := by
  obtain ⟨b, here, lines⟩ := stepper_lines (s := s) placeholderPin (.inl a.isPrimary_motor)
  refine ⟨_, mem_sections done (mem_of_stepper here) (mem_sections_of_header lines), rfl, ?_⟩
  rw [if_pos a.isPrimary_motor, a.moves_motor, ← List.cons_append, ← List.append_assoc,
    looseEntries_append (headed_driverLines _)]
  refine mem_looseEntries (not_header_of_sectionNames (by simp)) ?_
  simp [own]

/-- With the probe as the stop of the height, a mesh is laid from the bed sizes. -/
theorem lays_laid (probing : s.settings.zStop = .probe) : r.Lays (.laid s.bedX) (.laid s.bedY) := by
  have here : ∃ b ∈ s.probeBlocks placeholderPin, sections b.lines =
      [⟨"safe_z_home", [("home_xy_position", placeText (s.bedX / 2) (s.bedY / 2)), ("z_hop", toString 10)]⟩,
       ⟨"bed_mesh", [("speed", toString 120), ("mesh_min", placeText 10 10),
         ("mesh_max", placeText (s.bedX - 10) (s.bedY - 10)), ("probe_count", "5, 5")]⟩] := by
    simp only [probeBlocks, if_pos probing]
    exact ⟨_, List.mem_cons_of_mem _ (List.mem_singleton_self _), rfl⟩
  obtain ⟨b, own, whole⟩ := here
  have inside {sec : ConfigSection} (listed : sec ∈ sections b.lines) : sec ∈ r.sections :=
    mem_sections done (mem_of_probe own) listed
  rw [whole] at inside
  exact {
    limitX := says_travel done (a := .x) (by simp [travelLines, rangeLines, count, Span.laid])
    limitY := says_travel done (a := .y) (by simp [travelLines, rangeLines, count, Span.laid])
    home := ⟨_, inside (List.mem_cons_self ..), rfl, List.mem_cons_self ..⟩
    least := ⟨_, inside (List.mem_cons_of_mem _ (List.mem_cons_self ..)), rfl, by simp [Span.laid]⟩
    greatest := ⟨_, inside (List.mem_cons_of_mem _ (List.mem_cons_self ..)), rfl, by simp [Span.laid]⟩ }

private theorem lays_unique (one : r.Lays x y) (other : r.Lays x' y') : x = x' ∧ y = y' := by
  have limitX := Settings.toString_nat_injective (says_unique done one.limitX other.limitX)
  have limitY := Settings.toString_nat_injective (says_unique done one.limitY other.limitY)
  obtain ⟨homeX, homeY⟩ := placeText_inj.mp (says_unique done one.home other.home)
  obtain ⟨leastX, leastY⟩ := placeText_inj.mp (says_unique done one.least other.least)
  obtain ⟨greatestX, greatestY⟩ := placeText_inj.mp (says_unique done one.greatest other.greatest)
  exact ⟨Span.ext leastX greatestX homeX limitX, Span.ext leastY greatestY homeY limitY⟩

end

/-! ## Sizes that are set -/

private theorem settings_after_set (c : Catalog) (s : Session) (key value : String) :
    (s.after c (.set key value)).settings = s.settings.after (.set key value) := by
  simp only [after, Settings.after]
  cases s.settings.setNamed key value with
  | error _ => rfl
  | ok set => cases set <;> rfl

private theorem settings_reached_sets (c : Catalog) (d : Document) (sets : List (String × String)) :
    (reached c (.restore d :: sets.map fun p => .set p.1 p.2)).settings =
      sets.foldl (fun t p => t.after (.set p.1 p.2)) d.settings := by
  induction sets using List.reverseRecOn with
  | nil => exact restore_settings c d
  | append_singleton sets p ih =>
    rw [List.map_append, List.map_singleton, ← List.cons_append, reached_concat, settings_after_set, ih,
      List.foldl_concat]

/-! ## Places over the bed -/

/-- A strict rendering of a printer whose Z axis homes against the probe names places on both axes, and they are those
over a bed of the sizes that are set. -/
theorem render_geometry (done : s.render .strict = .ok r) (probing : s.settings.zStop = .probe) :
    ∃ width depth, s.settings.bedSizeX = some width ∧ s.settings.bedSizeY = some depth ∧ (∃ x y, r.Lays x y) ∧
      ∀ x y, r.Lays x y → x.Over width.toNat ∧ y.Over depth.toNat := by
  have complete := (render_strict_eq_ok.mp done).1
  obtain ⟨width, sizeX⟩ := Option.isSome_iff_exists.mp complete.bedSizeX
  obtain ⟨depth, sizeY⟩ := Option.isSome_iff_exists.mp complete.bedSizeY
  have bedX : s.bedX = width.toNat := by rw [bedX, sizeX, Option.getD_some]
  have bedY : s.bedY = depth.toNat := by rw [bedY, sizeY, Option.getD_some]
  have lays := lays_laid done probing
  rw [bedX, bedY] at lays
  refine ⟨width, depth, sizeX, sizeY, ⟨_, _, lays⟩, fun x y named => ?_⟩
  obtain ⟨rfl, rfl⟩ := lays_unique done named lays
  exact ⟨Span.laid_over _, Span.laid_over _⟩

/-- On a bed of 300 mm there is room for the mesh. -/
theorem toolboardPrinter_geometry : ∃ r x y, (restore Catalog.builtin toolboardPrinter).1.render .strict = .ok r ∧
    (restore Catalog.builtin toolboardPrinter).1.settings.zStop = .probe ∧ r.Lays x y ∧ x.Sound ∧ y.Sound := by
  have done := render_strict (s := (restore Catalog.builtin toolboardPrinter).1)
  rw [review_toolboardPrinter] at done
  have probing : (restore Catalog.builtin toolboardPrinter).1.settings.zStop = .probe := by
    rw [restore_settings]
    rfl
  obtain ⟨width, depth, sizeX, sizeY, ⟨x, y, lays⟩, spans⟩ := render_geometry done probing
  rw [restore_settings] at sizeX sizeY
  cases sizeX
  cases sizeY
  obtain ⟨overX, overY⟩ := spans x y lays
  exact ⟨_, x, y, done, probing, lays, overX.sound.mpr (by decide), overY.sound.mpr (by decide)⟩

/-- The same printer, after both sizes of its bed were set to 20 mm. -/
def smallBed : Session :=
  reached Catalog.builtin
    [.restore toolboardPrinter, .set "printer.bed_size_x" "20", .set "printer.bed_size_y" "20"]

/-- There the mesh ends where it starts. -/
theorem smallBed_not_sound : ∃ r x y, smallBed.render .strict = .ok r ∧ smallBed.settings.zStop = .probe ∧
    smallBed.settings.bedSizeX = some 20 ∧ smallBed.settings.bedSizeY = some 20 ∧ r.Lays x y ∧
      ¬ x.Sound ∧ ¬ y.Sound := by
  have complete : smallBed.review.error? = none := by decide +kernel
  have done := render_strict (s := smallBed)
  rw [complete] at done
  have outcome : smallBed.settings.zStop = .probe ∧ smallBed.settings.bedSizeX = some 20 ∧
      smallBed.settings.bedSizeY = some 20 := by
    have sizes : smallBed.settings = _ := settings_reached_sets Catalog.builtin toolboardPrinter
      [("printer.bed_size_x", "20"), ("printer.bed_size_y", "20")]
    rw [sizes]
    decide +kernel
  obtain ⟨probing, sizeX, sizeY⟩ := outcome
  have lays := lays_laid done probing
  rw [bedX, bedY, sizeX, sizeY] at lays
  have narrow : ¬ (Span.laid 20).Sound := fun sound => Nat.lt_irrefl 10 sound.extent
  exact ⟨_, _, _, done, probing, sizeX, sizeY, lays, narrow, narrow⟩

end Session

end PrinterWiring
