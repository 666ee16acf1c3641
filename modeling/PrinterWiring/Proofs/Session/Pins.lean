import PrinterWiring.Proofs.Pin.Resolved
import PrinterWiring.Proofs.Session.Replay
import PrinterWiring.Report.Review

/-!
# Pins that a session holds

Over an accepted catalog, what a session holds of a pin is the text of a raw pin on a board that is selected, and of
an assigned function it holds all the main pins.
-/

namespace PrinterWiring.Session

variable {c : Catalog} {s : Session} {k : SlotKey} {f : PrinterFunction} {name : PinName} {v : String}

/-- A session that was restored has what every reachable session has. -/
theorem restore_sound (c : Catalog) (d : Document) : (restore c d).1.Sound c := (invariant_sound c).reached [.restore d]

theorem pin?_eq_some :
    s.pin? k name = some v ↔ ∃ w, s.wiring.get? k = some w ∧ w.pins.get? name = some v := by
  simp only [pin?, pins?, Option.bind_eq_some_iff, Option.map_eq_some_iff]
  constructor
  · rintro ⟨_, ⟨w, wired, rfl⟩, held⟩
    exact ⟨w, wired, held⟩
  · rintro ⟨w, wired, held⟩
    exact ⟨w.pins, ⟨w, wired, rfl⟩, held⟩

theorem isAssigned_of_pin? (held : s.pin? ⟨f, .primary⟩ name = some v) : s.isAssigned f = true := by
  obtain ⟨w, wired, _⟩ := pin?_eq_some.mp held
  exact isAssigned_iff.mpr ⟨w.port, by rw [port?, wired]; rfl⟩

private theorem hasBoard_of_port? (sound : s.Sound c) {a : Address} (held : s.port? k = some a) :
    s.hasBoard a.role = true := by
  obtain ⟨w, wired, rfl⟩ := Option.map_eq_some_iff.mp held
  obtain ⟨id, _, _, selected, _⟩ := sound.coherent.backed k w wired
  exact Table.contains_iff.mpr ⟨id, selected⟩

/-- Every pin is written for a controller that is there. -/
theorem exists_text_of_pin? (accepted : c.Accepted) (sound : s.Sound c) (held : s.pin? k name = some v) :
    ∃ role raw m, s.hasBoard role = true ∧ isRawPin raw = true ∧ v = pinText role raw m := by
  obtain ⟨w, wired, held⟩ := pin?_eq_some.mp held
  have selected : s.hasBoard w.port.role = true := hasBoard_of_port? sound (by rw [port?, wired]; rfl)
  obtain ⟨_, b, p, _, known, found, _, _, resolved⟩ := sound.coherent.backed k w wired
  obtain ⟨raw, m, inside, text⟩ := Port.exists_raw_of_get? resolved held
  exact ⟨w.port.role, raw, m, selected, (accepted.port_sound known found).raw name raw inside, text⟩

/-- Of a slot with a port the main pins of its function are held. -/
theorem exists_main_of_port? (accepted : c.Accepted) (sound : s.Sound c) {a : Address} (held : s.port? k = some a)
    (main : name ∈ k.function.category.mainPins) : ∃ v, s.pin? k name = some v := by
  obtain ⟨w, wired, _⟩ := Option.map_eq_some_iff.mp held
  obtain ⟨_, b, p, _, known, found, _, category, resolved⟩ := sound.coherent.backed _ w wired
  have suits := (accepted.port_sound known found).suited
  have sort : p.category = k.function.category := category.trans (sound.sorted _ w wired)
  obtain ⟨v, text⟩ := Port.exists_main resolved suits (sort ▸ main)
  exact ⟨v, pin?_eq_some.mpr ⟨w, wired, text⟩⟩

theorem exists_main_pin (accepted : c.Accepted) (sound : s.Sound c) (assigned : s.isAssigned f = true)
    (main : name ∈ f.category.mainPins) : ∃ v, s.pin? ⟨f, .primary⟩ name = some v := by
  obtain ⟨a, held⟩ := isAssigned_iff.mp assigned
  exact exists_main_of_port? accepted sound held main

end PrinterWiring.Session
