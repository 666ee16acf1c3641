import PrinterWiring.Proofs.Catalog.Sound
import PrinterWiring.Proofs.Pin.Resolved

/-!
# Reading pins back

None of the marks in front of a raw pin, nor the colon behind a controller, may stand in a raw pin. So the text of a pin
is read back in one way only (`readPin_of_spelledAs`), and what a port resolves to tells for each pin that the port wires
where it comes from and which marks it was given (`resolve_readable`).
-/

namespace PrinterWiring

/-- What the text of a pin says: its marks, the role of its board, and its raw pin. -/
structure PinReading where
  marks : Modifiers
  role : Role
  raw : String

namespace PinReading

/-- What stands in front of a raw pin: `^`, `!` and `toolboard:`, any of which may be missing. -/
def front (r : PinReading) : List Char :=
  (if r.marks.pullup then ['^'] else []) ++ (if r.marks.invert then ['!'] else []) ++
    (if r.role = .toolboard then "toolboard:".toList else [])

/-- A text is the canonical form of a reading. -/
structure SpelledAs (r : PinReading) (v : String) : Prop where
  nonempty : r.raw ≠ ""
  letters : ∀ c ∈ r.raw.toList, IsPinLetter c
  text : v.toList = r.front ++ r.raw.toList

end PinReading

/-- Takes a mark off the front of a text. -/
def takeMark (mark : Char) : List Char → Bool × List Char
  | [] => (false, [])
  | c :: cs => if c = mark then (true, cs) else (false, c :: cs)

/-- Reads the text of a pin. A colon stands behind the controller of a toolboard. -/
def readPin (v : String) : PinReading :=
  let (pullup, cs) := takeMark '^' v.toList
  let (invert, cs) := takeMark '!' cs
  match Text.cutFirst? ':' cs with
  | some (_, raw) => ⟨⟨pullup, invert⟩, .toolboard, .ofList raw⟩
  | none => ⟨⟨pullup, invert⟩, .mainboard, .ofList cs⟩

/-- The pins that are pulled up: the stall line of a driver, and what a function senses if it needs that and the user
does not suppress it. -/
def PulledUp (f : PrinterFunction) (o : PinOptions) (name : PinName) : Prop :=
  name = .diag ∨ (f.needsPullup = true ∧ o.suppressPullup = false ∧ (name = .signal ∨ name = .pin))

/-- The pins that are inverted: the enable line of a driver, and others that the user chose to invert. -/
def Inverted (o : PinOptions) (name : PinName) : Prop :=
  name = .enable ∨ (o.invert = true ∧ (name = .dir ∨ name = .signal ∨ name = .pin))

/-- A reading names the raw pin that a port wires, the role of its board, and the marks that its pin should have. -/
structure PinReading.Tells (r : PinReading) (p : Port) (f : PrinterFunction) (role : Role) (o : PinOptions)
    (name : PinName) : Prop where
  raw : p.pins.raw? name = some r.raw
  role : r.role = role
  pullup : r.marks.pullup = true ↔ PulledUp f o name
  invert : r.marks.invert = true ↔ Inverted o name

variable {v : String} {r : PinReading} {mark : Char} {cs : List Char}

/-! ## One reading only -/

private theorem takeMark_append (clean : mark ∉ cs) (marked : Bool) :
    takeMark mark ((if marked then [mark] else []) ++ cs) = (marked, cs) := by
  cases marked with
  | true => simp [takeMark]
  | false =>
    cases cs with
    | nil => rfl
    | cons c cs => simp [takeMark, (List.ne_of_not_mem_cons clean).symm]

private theorem PinReading.SpelledAs.not_mem (spelled : r.SpelledAs v) {c : Char} (other : isPinChar c = false) :
    c ∉ r.raw.toList := by
  intro inside
  rw [isPinChar_iff.mpr (spelled.letters c inside)] at other
  cases other

/-- A text that spells a pin is read as this pin. -/
theorem readPin_of_spelledAs (spelled : r.SpelledAs v) : readPin v = r := by
  have colon : ':' ∉ r.raw.toList := spelled.not_mem (by decide)
  have caret : '^' ∉ r.raw.toList := spelled.not_mem (by decide)
  have bang : '!' ∉ r.raw.toList := spelled.not_mem (by decide)
  have text := spelled.text
  -- What is left behind a mark does not have that mark again, so a mark that is missing is not taken from elsewhere.
  obtain ⟨⟨pullup, invert⟩, role, raw⟩ := r
  simp only [PinReading.front, List.append_assoc] at text
  have first : takeMark '^' v.toList = (pullup, (if invert then ['!'] else []) ++
      ((if role = .toolboard then "toolboard:".toList else []) ++ raw.toList)) := by
    rw [text]
    refine takeMark_append ?_ pullup
    cases invert <;> cases role <;> simpa using caret
  have second : takeMark '!' ((if invert then ['!'] else []) ++
      ((if role = .toolboard then "toolboard:".toList else []) ++ raw.toList)) =
        (invert, (if role = .toolboard then "toolboard:".toList else []) ++ raw.toList) := by
    refine takeMark_append ?_ invert
    cases role <;> simpa using bang
  simp only [readPin, first, second]
  cases role with
  | mainboard => simp [Text.cutFirst?_eq_none colon]
  | toolboard =>
    have cut : Text.cutFirst? ':' ("toolboard:".toList ++ raw.toList) = some ("toolboard".toList, raw.toList) := by
      rw [show "toolboard:".toList = "toolboard".toList ++ [':'] from rfl, List.append_assoc]
      exact Text.cutFirst?_append (by decide) raw.toList
    simp only [if_true, cut, String.ofList_toList]

/-- A text that is the canonical form of a reading is that of no other one. -/
theorem spelledAs_iff (spelled : r.SpelledAs v) (other : PinReading) : other.SpelledAs v ↔ other = r := by
  constructor
  · intro spelled'
    rw [← readPin_of_spelledAs spelled', readPin_of_spelledAs spelled]
  · rintro rfl
    exact spelled

/-- What is written for a pin spells it. -/
theorem spelledAs_pinText {role : Role} {raw : String} (valid : isRawPin raw = true) (m : Modifiers) :
    PinReading.SpelledAs ⟨m, role, raw⟩ (pinText role raw m) := by
  obtain ⟨nonempty, letters⟩ := isRawPin_iff.mp valid
  refine ⟨nonempty, letters, ?_⟩
  obtain ⟨pullup, invert⟩ := m
  cases role <;> cases pullup <;> cases invert <;> simp [pinText, PinReading.front, Role.controller?]

/-- No two pins are written alike. -/
theorem pinText_injective {role role' : Role} {raw raw' : String} {m m' : Modifiers} (valid : isRawPin raw = true)
    (valid' : isRawPin raw' = true) (same : pinText role raw m = pinText role' raw' m') :
    role = role' ∧ raw = raw' ∧ m = m' := by
  have first : readPin (pinText role raw m) = ⟨m, role, raw⟩ := readPin_of_spelledAs (spelledAs_pinText valid m)
  have second : readPin (pinText role' raw' m') = ⟨m', role', raw'⟩ := readPin_of_spelledAs (spelledAs_pinText valid' m')
  rw [same, second] at first
  cases first
  exact ⟨rfl, rfl, rfl⟩

/-! ## What a port resolves to -/

namespace Port

variable {p : Port} {f : PrinterFunction} {role : Role} {o : PinOptions} {pins : ResolvedPins} {name : PinName}
  {raw : String}

/-- Every pin that a port wires is asked for, with the marks that it should have. -/
theorem exists_request_of_wired {pins : PinSet} (wired : pins.raw? name = some raw) (f : PrinterFunction)
    (o : PinOptions) : ∃ r, (pinRequests f pins o).find? (·.name = name) = some r ∧
      (r.modifiers.pullup = true ↔ PulledUp f o name) ∧ (r.modifiers.invert = true ↔ Inverted o name) := by
  cases pins <;> cases name <;> simp_all [pinRequests, PinSet.raw?, PulledUp, Inverted, Modifiers.plain]

private theorem contains_of_resolve (resolved : p.resolve f role o = .ok pins) (name : PinName) :
    pins.contains name = (p.pins.raw? name).isSome := by
  rw [Table.contains, get?_of_resolve resolved]
  cases wired : p.pins.raw? name with
  | none => simp
  | some raw =>
    obtain ⟨r, asked, _⟩ := exists_request_of_wired wired f o
    simp [asked]

/-- Every resolved pin spells what the port and the options say of it. -/
theorem exists_reading (sound : p.Sound) (resolved : p.resolve f role o = .ok pins) {v : String}
    (held : pins.get? name = some v) : ∃ r : PinReading, r.Tells p f role o name ∧ r.SpelledAs v := by
  rw [get?_of_resolve resolved] at held
  obtain ⟨q, asked, held⟩ := Option.bind_eq_some_iff.mp held
  obtain ⟨raw, wired, rfl⟩ := Option.map_eq_some_iff.mp held
  obtain ⟨q', asked', pullup, invert⟩ := exists_request_of_wired wired f o
  cases asked.symm.trans asked'
  exact ⟨⟨q.modifiers, role, raw⟩, ⟨wired, rfl, pullup, invert⟩, spelledAs_pinText (sound.raw name raw wired) _⟩

end Port

/-- A port of an accepted catalog resolves for every function, role and options, to exactly the pins that it wires. The
text of each is the canonical form of one reading and no other, which tells the raw pin, the role and the marks. So
different raw pins, roles or marks are never written alike. -/
theorem resolve_readable {c : Catalog} (accepted : c.Accepted) {b : Board} (listed : b ∈ c.boards) {p : Port}
    (has : p ∈ b.ports) (f : PrinterFunction) (role : Role) (o : PinOptions) :
    (∃ pins, p.resolve f role o = .ok pins ∧ pins.toList.map (·.1) = p.pins.wired ∧
      ∀ name v, pins.get? name = some v → ∃ r : PinReading, r.Tells p f role o name ∧ readPin v = r ∧
        ∀ other : PinReading, other.SpelledAs v ↔ other = r) ∧
      ∀ role role' raw raw' m m', isRawPin raw = true → isRawPin raw' = true →
        pinText role raw m = pinText role' raw' m' → role = role' ∧ raw = raw' ∧ m = m' := by
  obtain ⟨e, passes⟩ := accepted.entered listed
  have sound : p.Sound := BoardEntry.port_sound passes has
  obtain ⟨pins, resolved⟩ := p.exists_resolve f role o
  refine ⟨⟨pins, resolved, ?_, fun name v held => ?_⟩, fun _ _ _ _ _ _ => pinText_injective⟩
  · rw [Table.toList_keys, PinSet.wired, funext (Port.contains_of_resolve resolved)]
  · obtain ⟨r, tells, spelled⟩ := Port.exists_reading sound resolved held
    exact ⟨r, tells, readPin_of_spelledAs spelled, spelledAs_iff spelled⟩

/-- A probe with a servo, inverted, on a toolboard. -/
def ebbProbe : Port := ⟨"PROBE", some "BLTouch", .probe, .probe "PB8" (some "PB9")⟩

/-- The probe port of a board that comes with the program, inverted. -/
theorem ebbProbe_readable :
    Catalog.builtin.Accepted ∧ Builtin.ebb36.board ∈ Catalog.builtin.boards ∧ ebbProbe ∈ Builtin.ebb36.board.ports ∧
      ∃ pins, ebbProbe.resolve .probe .toolboard ⟨true, false⟩ = .ok pins ∧
        pins.toList = [(.signal, "^!toolboard:PB8"), (.servo, "toolboard:PB9")] ∧
        pins.toList.map (·.1) = ebbProbe.pins.wired ∧
        ∀ name v, pins.get? name = some v → ∃ r : PinReading, r.Tells ebbProbe .probe .toolboard ⟨true, false⟩ name ∧
          readPin v = r ∧ ∀ other : PinReading, other.SpelledAs v ↔ other = r := by
  have listed : Builtin.ebb36.board ∈ Catalog.builtin.boards := by decide +kernel
  have has : ebbProbe ∈ Builtin.ebb36.board.ports := by
    simp [Builtin.ebb36, ebbProbe, BoardEntry.board, PortEntries.toPorts]
  have accepted := Catalog.accepted_builtin
  obtain ⟨⟨pins, resolved, wired, readings⟩, _⟩ := resolve_readable accepted listed has .probe .toolboard ⟨true, false⟩
  refine ⟨accepted, listed, has, pins, resolved, ?_, wired, readings⟩
  have texts : (ebbProbe.resolve .probe .toolboard ⟨true, false⟩).map Table.toList =
      .ok [(.signal, "^!toolboard:PB8"), (.servo, "toolboard:PB9")] := rfl
  rw [resolved] at texts
  exact Except.ok.inj texts

end PrinterWiring
