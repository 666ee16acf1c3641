import Mathlib
import PrinterWiring.Board.Basic

/-!
# Equality up to letter case

Ports are found on a board and owned in a registry without regard to the case of ASCII letters. Folding to
upper case and folding to lower case identify the same texts (`sameFolded_iff`), so that either may decide.
-/

namespace PrinterWiring.Text

/-- Two texts that differ at most in the case of ASCII letters. -/
def SameLetters (s t : String) : Prop := lower s = lower t

private theorem lower_upper (s : String) : lower (upper s) = lower s := by
  simp [lower, upper, Function.comp_def]

private theorem upper_lower (s : String) : upper (lower s) = upper s := by
  simp [lower, upper, Function.comp_def]

/-- Two texts fold to the same just if they have the same letters. -/
theorem sameFolded_iff {s t : String} : sameFolded s t = true ↔ SameLetters s t := by
  rw [sameFolded, beq_iff_eq, SameLetters]
  constructor
  · intro same
    rw [← lower_upper s, same, lower_upper]
  · intro same
    rw [← upper_lower s, same, upper_lower]

namespace SameLetters

variable {s t u : String}

@[simp] theorem refl (s : String) : SameLetters s s := rfl

theorem symm (h : SameLetters s t) : SameLetters t s := Eq.symm h

theorem trans (h : SameLetters s t) (k : SameLetters t u) : SameLetters s u := Eq.trans h k

theorem congr_right (h : SameLetters s t) : SameLetters u s ↔ SameLetters u t :=
  ⟨fun k => k.trans h, fun k => k.trans h.symm⟩

end SameLetters

end PrinterWiring.Text

namespace PrinterWiring.Board

/-- A port that is found goes by the text that it was looked up with. -/
theorem port?_sameLetters {b : Board} {id : String} {p : Port} (found : b.port? id = some p) :
    Text.SameLetters p.id id := by
  have passes := List.find?_some (p := fun q : Port => Text.sameFolded q.id id) found
  exact Text.sameFolded_iff.mp passes

/-- Look-ups do not depend on letter case. -/
theorem port?_congr {b : Board} {id other : String} (same : Text.SameLetters id other) : b.port? id = b.port? other := by
  have fold (p : Port) : Text.sameFolded p.id id = Text.sameFolded p.id other := by
    rw [Bool.eq_iff_iff, Text.sameFolded_iff, Text.sameFolded_iff, same.congr_right]
  simp only [port?, fold]

/-- A port that is found by some text is found by its own id. -/
theorem port?_id {b : Board} {id : String} {p : Port} (found : b.port? id = some p) : b.port? p.id = some p := by
  rw [port?_congr (port?_sameLetters found), found]

end PrinterWiring.Board
