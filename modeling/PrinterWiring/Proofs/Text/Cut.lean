import Mathlib.Data.List.Basic
import Mathlib.Tactic.SplitIfs
import PrinterWiring.Text.Column
import PrinterWiring.Text.Split

/-!
# Lines and cuts

The lines of joined lines are those lines again, if none of them holds a line feed (`lines_unlines`); and no line
ever holds one. A cut at the first or the last separator finds the parts that were put together around it.
-/

namespace PrinterWiring.Text

variable {sep : Char}

/-! ## Pieces -/

theorem pieces_of_not_mem {p : List Char} (clean : sep ∉ p) : pieces sep p = [p] := by
  induction p with
  | nil => rfl
  | cons c p ih =>
    rw [List.mem_cons, not_or] at clean
    simp [pieces, Ne.symm clean.1, ih clean.2]

theorem pieces_ne_nil (cs : List Char) : pieces sep cs ≠ [] := by
  cases cs with
  | nil => simp [pieces]
  | cons c cs =>
    unfold pieces
    split_ifs
    · simp
    · split <;> simp

theorem pieces_append (p cs : List Char) : pieces sep (p ++ sep :: cs) = pieces sep p ++ pieces sep cs := by
  induction p with
  | nil => simp [pieces]
  | cons c p ih =>
    by_cases here : c = sep
    · simp [pieces, here, ih]
    · cases rest : pieces sep p with
      | nil => exact absurd rest (pieces_ne_nil p)
      | cons piece more => simp [pieces, here, ih, rest]

private theorem not_mem_of_mem_pieces {cs p : List Char} (piece : p ∈ pieces sep cs) : sep ∉ p := by
  induction cs generalizing p with
  | nil =>
    simp only [pieces, List.mem_singleton] at piece
    simp [piece]
  | cons c cs ih =>
    by_cases here : c = sep
    · simp only [pieces, here, if_true, List.mem_cons] at piece
      rcases piece with rfl | later
      · simp
      · exact ih later
    · simp only [pieces, here, if_false] at piece
      cases rest : pieces sep cs with
      | nil =>
        simp only [rest, List.mem_singleton] at piece
        simp [piece, Ne.symm here]
      | cons q qs =>
        simp only [rest, List.mem_cons] at piece
        rcases piece with rfl | later
        · have first : sep ∉ q := ih (by simp [rest])
          simp [Ne.symm here, first]
        · exact ih (by simp [rest, later])

/-! ## Lines -/

/-- A text that stays on its line. -/
def OneLine (s : String) : Prop := '\n' ∉ s.toList

instance (s : String) : Decidable (OneLine s) := inferInstanceAs (Decidable ('\n' ∉ s.toList))

theorem oneLine_of_mem_lines {s line : String} (inside : line ∈ lines s) : OneLine line := by
  obtain ⟨p, piece, rfl⟩ := List.mem_map.mp inside
  rw [OneLine, String.toList_ofList]
  exact not_mem_of_mem_pieces piece

@[simp] theorem oneLine_append {s t : String} : OneLine (s ++ t) ↔ OneLine s ∧ OneLine t := by
  simp [OneLine]

theorem lines_of_oneLine {s : String} (line : OneLine s) : lines s = [s] := by
  rw [lines, pieces_of_not_mem line, List.map_singleton, String.ofList_toList]

/-- The lines in front of a line feed and the lines behind it are those of the whole. -/
theorem lines_append (s t : String) : lines (s ++ "\n" ++ t) = lines s ++ lines t := by
  have split : (s ++ "\n" ++ t).toList = s.toList ++ '\n' :: t.toList := by simp
  rw [lines, split, pieces_append, List.map_append, lines, lines]

theorem length_lines_pos (s : String) : 0 < (lines s).length := by
  rw [lines, List.length_map]
  exact List.length_pos_iff.mpr (pieces_ne_nil _)

theorem oneLine_of_length_lines {s : String} (short : (lines s).length ≤ 1) : OneLine s := by
  intro inside
  obtain ⟨p, q, split⟩ := List.append_of_mem inside
  rw [lines, List.length_map, split, pieces_append, List.length_append] at short
  have left : 0 < (pieces '\n' p).length := List.length_pos_iff.mpr (pieces_ne_nil p)
  have right : 0 < (pieces '\n' q).length := List.length_pos_iff.mpr (pieces_ne_nil q)
  omega

/-- Lines that are ended one by one are read back, with an empty one behind the last. -/
theorem lines_unlines {ls : List String} (whole : ∀ line ∈ ls, OneLine line) : lines (unlines ls) = ls ++ [""] := by
  induction ls with
  | nil => rfl
  | cons line ls ih =>
    obtain ⟨first, rest⟩ := List.forall_mem_cons.mp whole
    have split : unlines (line :: ls) = line ++ "\n" ++ unlines ls := by simp [unlines]
    rw [split, lines_append, lines_of_oneLine first, ih rest, List.cons_append, List.nil_append, List.cons_append]

/-! ## Cuts -/

/-- A text is cut where the separator is first. -/
theorem cutFirst?_append {p : List Char} (clean : sep ∉ p) (cs : List Char) :
    cutFirst? sep (p ++ sep :: cs) = some (p, cs) := by
  induction p with
  | nil => simp [cutFirst?]
  | cons c p ih =>
    rw [List.mem_cons, not_or] at clean
    simp [cutFirst?, Ne.symm clean.1, ih clean.2]

theorem cutFirst?_eq_none {cs : List Char} (clean : sep ∉ cs) : cutFirst? sep cs = none := by
  induction cs with
  | nil => rfl
  | cons c cs ih =>
    rw [List.mem_cons, not_or] at clean
    simp [cutFirst?, Ne.symm clean.1, ih clean.2]

/-- A cut is made at the first separator and nowhere else. -/
theorem cutFirst?_eq_some {cs p q : List Char} : cutFirst? sep cs = some (p, q) ↔ sep ∉ p ∧ cs = p ++ sep :: q := by
  constructor
  · intro cut
    induction cs generalizing p with
    | nil => cases cut
    | cons c cs ih =>
      by_cases here : c = sep
      · simp only [cutFirst?, here, if_true, Option.some.injEq, Prod.mk.injEq] at cut
        simp [← cut.1, ← cut.2, here]
      · simp only [cutFirst?, here, if_false, Option.map_eq_some_iff, Prod.mk.injEq] at cut
        obtain ⟨⟨p', q'⟩, later, rfl, rfl⟩ := cut
        obtain ⟨clean, whole⟩ := ih later
        simp [Ne.symm here, clean, whole]
  · rintro ⟨clean, rfl⟩
    exact cutFirst?_append clean q

private theorem cutLast?_eq_none {cs : List Char} (clean : sep ∉ cs) : cutLast? sep cs = none := by
  induction cs with
  | nil => rfl
  | cons c cs ih =>
    rw [List.mem_cons, not_or] at clean
    simp [cutLast?, ih clean.2, Ne.symm clean.1]

private theorem cutLast?_append (p : List Char) {cs : List Char} (clean : sep ∉ cs) :
    cutLast? sep (p ++ sep :: cs) = some (p, cs) := by
  induction p with
  | nil => simp [cutLast?, cutLast?_eq_none clean]
  | cons c p ih => simp [cutLast?, ih]

theorem splitFirst?_append {s t : String} (clean : sep ∉ s.toList) :
    splitFirst? sep (s ++ .singleton sep ++ t) = some (s, t) := by
  simp [splitFirst?, cutFirst?_append clean]

theorem splitLast?_append {s t : String} (clean : sep ∉ t.toList) :
    splitLast? sep (s ++ .singleton sep ++ t) = some (s, t) := by
  simp [splitLast?, cutLast?_append _ clean]

/-- The parts of a cut stand side by side in the text. -/
theorem splitFirst?_eq_some {s a b : String} (cut : splitFirst? sep s = some (a, b)) :
    s = a ++ .singleton sep ++ b := by
  obtain ⟨⟨p, q⟩, parts, same⟩ := Option.map_eq_some_iff.mp cut
  cases same
  apply String.toList_inj.mp
  simp [(cutFirst?_eq_some.mp parts).2]

end PrinterWiring.Text
