import PrinterWiring.Proofs.Catalog.Accepted
import PrinterWiring.Proofs.Text.Trim

/-!
# Sound boards

What an entry has to fulfil so that it becomes a board (`BoardEntry.Valid`, `BoardEntry.toBoard_iff`), and what
therefore holds of every board of an accepted catalog (`Board.Sound`, `Catalog.Accepted.board_sound`): ids that say
something, ports that are told apart and found in any letter case, and raw pins that suit their category.
-/

namespace PrinterWiring

/-! ## Raw pins -/

/-- The characters of raw pins. -/
def IsPinLetter (c : Char) : Prop :=
  ('A' ≤ c ∧ c ≤ 'Z') ∨ ('a' ≤ c ∧ c ≤ 'z') ∨ ('0' ≤ c ∧ c ≤ '9') ∨ c = '_' ∨ c = '.'

theorem isPinChar_iff {c : Char} : isPinChar c = true ↔ IsPinLetter c := by
  simp only [isPinChar, Char.isAlphanum, Char.isAlpha, Char.isUpper, Char.isLower, Char.isDigit, Bool.or_eq_true,
    Bool.and_eq_true, decide_eq_true_eq, or_assoc]
  rfl

theorem isRawPin_iff {raw : String} : isRawPin raw = true ↔ raw ≠ "" ∧ ∀ c ∈ raw.toList, IsPinLetter c := by
  simp [isRawPin, isPinChar_iff]

/-! ## Entries -/

/-- An entry with ids that say something, ports that are told apart without regard to letter case, and raw pins. -/
structure BoardEntry.Valid (e : BoardEntry) : Prop where
  named : Text.NonBlank e.id
  raw : ∀ p ∈ e.ports.toPorts, ∀ raw ∈ p.pins.rawPins, raw ≠ "" ∧ ∀ c ∈ raw.toList, IsPinLetter c
  portsNamed : ∀ p ∈ e.ports.toPorts, Text.NonBlank p.id
  apart : e.ports.toPorts.Pairwise fun p q => ¬ Text.SameLetters p.id q.id

/-- Port ids pass if none is blank and no two have the same letters. -/
theorem checkIds_eq_ok {board : String} {seen : List String} {ports : List Port} :
    checkIds board seen ports = .ok () ↔
      (∀ p ∈ ports, Text.NonBlank p.id) ∧ (∀ p ∈ ports, ∀ id ∈ seen, ¬ Text.SameLetters id p.id) ∧
        ports.Pairwise fun p q => ¬ Text.SameLetters p.id q.id := by
  induction ports generalizing seen with
  | nil => simp [checkIds]
  | cons p ports ih =>
    rw [checkIds, List.forall_mem_cons, List.forall_mem_cons, List.pairwise_cons]
    by_cases blank : Text.isAllBlank p.id = true
    · have unnamed : ¬ Text.NonBlank p.id := fun named => by simp [Text.isAllBlank_eq_false.2 named] at blank
      simp [blank, unnamed]
    · rw [if_neg blank]
      have named := Text.isAllBlank_eq_false.1 (Bool.eq_false_iff.2 blank)
      by_cases taken : seen.any (Text.sameFolded · p.id) = true
      · obtain ⟨id, inside, same⟩ := List.any_eq_true.1 taken
        rw [if_pos taken]
        exact iff_of_false nofun fun all => all.2.1.1 id inside (Text.sameFolded_iff.1 same)
      · have free : ∀ id ∈ seen, ¬ Text.SameLetters id p.id := fun id inside same =>
          taken (List.any_eq_true.2 ⟨id, inside, Text.sameFolded_iff.2 same⟩)
        rw [if_neg taken, ih]
        simp only [List.forall_mem_cons, forall₂_and]
        exact ⟨fun ⟨names, ⟨first, rest⟩, apart⟩ => ⟨⟨named, names⟩, ⟨free, rest⟩, first, apart⟩,
          fun ⟨⟨_, names⟩, ⟨_, rest⟩, first, apart⟩ => ⟨names, ⟨first, rest⟩, apart⟩⟩

/-- The board that an entry describes. -/
def BoardEntry.board (e : BoardEntry) : Board := ⟨e.id, e.name, e.manufacturer, e.role, e.mcu, e.ports.toPorts⟩

/-- An entry becomes the board that it describes iff it is valid. -/
theorem BoardEntry.toBoard_iff {e : BoardEntry} {b : Board} : e.toBoard = .ok b ↔ e.Valid ∧ e.board = b := by
  rw [toBoard_eq_ok, Text.isAllBlank_eq_false, checkPins_eq_ok, checkIds_eq_ok]
  simp only [isRawPin_iff]
  constructor
  · rintro ⟨named, raw, ⟨portsNamed, _, apart⟩, same⟩
    exact ⟨⟨named, raw, portsNamed, apart⟩, same⟩
  · rintro ⟨⟨named, raw, portsNamed, apart⟩, same⟩
    exact ⟨named, raw, ⟨portsNamed, by simp, apart⟩, same⟩

/-! ## Boards -/

/-- A board whose id says something, whose ports are told apart and found in any letter case, and have pins that suit
their category and are raw. -/
structure Board.Sound (b : Board) : Prop where
  named : Text.NonBlank b.id
  portsNamed : ∀ p ∈ b.ports, Text.NonBlank p.id
  apart : b.ports.Pairwise fun p q => ¬ Text.SameLetters p.id q.id
  found : ∀ p ∈ b.ports, ∀ id, Text.SameLetters p.id id → b.port? id = some p
  suited : ∀ p ∈ b.ports, p.pins.Suits p.category
  raw : ∀ p ∈ b.ports, ∀ name raw, p.pins.raw? name = some raw → raw ≠ "" ∧ ∀ c ∈ raw.toList, IsPinLetter c

/-- A port that is told apart from all others is the one that is found. -/
theorem Board.port?_of_apart {b : Board} {p : Port} {id : String}
    (apart : b.ports.Pairwise fun p q => ¬ Text.SameLetters p.id q.id) (inside : p ∈ b.ports)
    (same : Text.SameLetters p.id id) : b.port? id = some p := by
  cases found : b.port? id with
  | none =>
    have missed := List.find?_eq_none.1 found p inside
    exact absurd (Text.sameFolded_iff.2 same) missed
  | some q =>
    have alike : Text.SameLetters p.id q.id := same.trans (port?_sameLetters found).symm
    have symmetric : Std.Symm fun p q : Port => ¬ Text.SameLetters p.id q.id := ⟨fun _ _ other same => other same.symm⟩
    by_contra different
    have others : p ≠ q := fun same => different (congrArg some same.symm)
    exact apart.forall inside (List.mem_of_find?_eq_some found) others alike

/-- A valid entry describes a sound board. -/
theorem BoardEntry.Valid.board_sound {e : BoardEntry} (valid : e.Valid) : e.board.Sound where
  named := valid.named
  portsNamed := valid.portsNamed
  apart := valid.apart
  found _ inside _ same := Board.port?_of_apart valid.apart inside same
  suited _ inside := PortEntries.suits_of_mem inside
  raw p inside name raw held := valid.raw p inside raw (PinSet.mem_rawPins.2 ⟨name, held⟩)

theorem Catalog.Accepted.board_sound {c : Catalog} (accepted : c.Accepted) {b : Board} (inside : b ∈ c.boards) :
    b.Sound := by
  obtain ⟨e, passes⟩ := accepted.entered inside
  obtain ⟨valid, rfl⟩ := BoardEntry.toBoard_iff.1 passes
  exact valid.board_sound

end PrinterWiring
