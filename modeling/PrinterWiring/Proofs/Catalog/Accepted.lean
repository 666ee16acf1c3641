import Mathlib.Logic.Unique
import PrinterWiring.Catalog.Builtin
import PrinterWiring.Catalog.File
import PrinterWiring.Proofs.Checks

/-!
# Accepted catalogs

Boards enter a catalog only from entries, and an entry becomes a board only if it passes all of its checks. So
whatever files a catalog was read from, each of its ports has the pins that suit its category, and they are raw
pins (`Accepted.port_sound`).
-/

namespace PrinterWiring

/-! ## Checked boards -/

/-- The pins of motor ports are a socket, those of probe ports a connector, and all other ports have a single pin. -/
def PinSet.Suits : PinSet → Category → Prop
  | .motor _, c => c = .motor
  | .probe _ _, c => c = .probe
  | .simple _, c => c ≠ .motor ∧ c ≠ .probe

/-- A port with the pins that suit its category, all of them raw pins. -/
structure Port.Sound (p : Port) : Prop where
  suited : p.pins.Suits p.category
  raw : ∀ name raw, p.pins.raw? name = some raw → isRawPin raw = true

theorem PinSet.mem_rawPins {pins : PinSet} {raw : String} : raw ∈ pins.rawPins ↔ ∃ name, pins.raw? name = some raw := by
  simp only [rawPins, wired, List.mem_filterMap, List.mem_filter, Enumerated.mem_all, true_and]
  constructor
  · rintro ⟨name, _, held⟩
    exact ⟨name, held⟩
  · rintro ⟨name, held⟩
    exact ⟨name, by rw [held]; rfl, held⟩

theorem PortEntries.suits_of_mem {e : PortEntries} {p : Port} (inside : p ∈ e.toPorts) : p.pins.Suits p.category := by
  simp only [toPorts, List.mem_append, List.mem_map] at inside
  rcases inside with (((((motor | heater) | thermistor) | fan) | endstop) | probe) | misc
  case inl.inl.inl.inl.inl.inl => obtain ⟨_, _, rfl⟩ := motor; rfl
  case inl.inr => obtain ⟨_, _, rfl⟩ := probe; rfl
  all_goals
    obtain ⟨_, _, rfl⟩ := ‹∃ _, _›
    simp [PinSet.Suits]

theorem checkPins_eq_ok {board : String} {ports : List Port} :
    checkPins board ports = .ok () ↔ ∀ p ∈ ports, ∀ raw ∈ p.pins.rawPins, isRawPin raw = true := by
  have single (p : Port) (raw : String) :
      (if isRawPin raw then .ok () else .error (.badPin board p.id raw) : Except CatalogError Unit) = .ok () ↔
        isRawPin raw = true := by
    split <;> simp_all
  simp only [checkPins, forM_eq_ok, single]

/-- An entry that passes its checks becomes the board that it describes. -/
theorem BoardEntry.toBoard_eq_ok {e : BoardEntry} {b : Board} :
    e.toBoard = .ok b ↔ Text.isAllBlank e.id = false ∧ checkPins e.id e.ports.toPorts = .ok () ∧
      checkIds e.id [] e.ports.toPorts = .ok () ∧
      ⟨e.id, e.name, e.manufacturer, e.role, e.mcu, e.ports.toPorts⟩ = b := by
  unfold toBoard
  cases Text.isAllBlank e.id with
  | true => simp [bind, Except.bind, throw, throwThe, MonadExceptOf.throw]
  | false => simp [bind_eq_ok, pure, Except.pure, Unique.exists_iff]

/-- Every port of an accepted board is sound. -/
theorem BoardEntry.port_sound {e : BoardEntry} {b : Board} (passes : e.toBoard = .ok b) {p : Port}
    (inside : p ∈ b.ports) : p.Sound := by
  obtain ⟨_, pins, _, rfl⟩ := toBoard_eq_ok.mp passes
  refine ⟨PortEntries.suits_of_mem inside, fun name raw held => ?_⟩
  exact checkPins_eq_ok.mp pins p inside raw (PinSet.mem_rawPins.mpr ⟨name, held⟩)

/-! ## Merged catalogs -/

namespace Catalog

variable {c c' : Catalog} {es : List BoardEntry}

private theorem mem_accept {accepted boards : List Board} (done : c.accept accepted es = .ok boards) {b : Board}
    (inside : b ∈ boards) : b ∈ accepted ∨ ∃ e ∈ es, e.toBoard = .ok b := by
  induction es generalizing accepted with
  | nil =>
    cases done
    exact .inl (List.mem_reverse.mp inside)
  | cons e es ih =>
    simp only [accept, bind_eq_ok] at done
    obtain ⟨b', passes, done⟩ := done
    split at done
    · simp [bind, Except.bind, throw, throwThe, MonadExceptOf.throw] at done
    · rcases ih done with older | ⟨e', later, passes'⟩
      · rcases List.mem_cons.mp older with rfl | older
        · exact .inr ⟨e, List.mem_cons_self .., passes⟩
        · exact .inl older
      · exact .inr ⟨e', List.mem_cons_of_mem _ later, passes'⟩

private theorem mem_foldl_insert {boards : List Board} {b : Board} (inside : b ∈ (boards.foldl insert c).boards) :
    b ∈ c.boards ∨ b ∈ boards := by
  induction boards generalizing c with
  | nil => exact .inl inside
  | cons b' boards ih =>
    rcases ih inside with older | later
    · rcases mem_insertBoard older with rfl | older
      · exact .inr (List.mem_cons_self ..)
      · exact .inl older
    · exact .inr (List.mem_cons_of_mem _ later)

/-- A board of a merged catalog was there before, or one of the entries describes it. -/
theorem mem_merge (done : c.merge es = .ok c') {b : Board} (inside : b ∈ c'.boards) :
    b ∈ c.boards ∨ ∃ e ∈ es, e.toBoard = .ok b := by
  obtain ⟨boards, accepts, rfl⟩ := map_eq_ok.mp done
  rcases mem_foldl_insert inside with older | new
  · exact .inl older
  · rcases mem_accept accepts new with none | entered
    · simp at none
    · exact .inr entered

/-- The catalogs that merging entries into the empty one leads to. -/
inductive Accepted : Catalog → Prop where
  | empty : Accepted empty
  | merge {c c' : Catalog} {es : List BoardEntry} (before : Accepted c) (done : c.merge es = .ok c') : Accepted c'

theorem Accepted.mergeText (before : c.Accepted) {s : String} (done : c.mergeText s = .ok c') : c'.Accepted := by
  obtain ⟨file, _, merged⟩ := bind_eq_ok.mp done
  exact .merge before merged

theorem accepted_ofText {s : String} (done : ofText s = .ok c) : c.Accepted := Accepted.empty.mergeText done

/-- The boards that come with the program are accepted like those of any file. -/
theorem accepted_builtin : builtin.Accepted := by
  unfold builtin
  split
  · next merged => exact .merge .empty merged
  · exact .empty

/-- Every board of an accepted catalog comes from an entry that passes its checks. -/
theorem Accepted.entered (accepted : c.Accepted) {b : Board} (inside : b ∈ c.boards) :
    ∃ e : BoardEntry, e.toBoard = .ok b := by
  induction accepted with
  | empty => simp [Catalog.empty] at inside
  | merge _ done ih =>
    rcases mem_merge done inside with older | ⟨e, _, passes⟩
    · exact ih older
    · exact ⟨e, passes⟩

theorem Accepted.port_sound (accepted : c.Accepted) {id port : String} {b : Board} {p : Port}
    (known : c.board? id = some b) (found : b.port? port = some p) : p.Sound := by
  obtain ⟨e, passes⟩ := accepted.entered (List.mem_of_find?_eq_some known)
  exact BoardEntry.port_sound passes (List.mem_of_find?_eq_some found)

end Catalog

end PrinterWiring
