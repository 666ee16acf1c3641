import PrinterWiring.Proofs.Text.Trim

/-!
# Line ends

A line ends with a line feed, which may have a carriage return before it; the last line of a text may have no end.
Counted this way, the lines of a text are the pieces between its line feeds, without the carriage returns and without
an empty piece at the end. The lines in front of any of them make up the front of the text (`exists_front`).
-/

namespace PrinterWiring.Text

/-- A line without the carriage return before its line feed. -/
def dropReturn (cs : List Char) : List Char := if cs.getLast? = some '\r' then cs.dropLast else cs

/-- The lines that pieces between line feeds stand for. Only the last piece has no line feed behind it. -/
def ended : List (List Char) → List (List Char)
  | [] => []
  | [last] => if last = [] then [] else [last]
  | piece :: next :: rest => dropReturn piece :: ended (next :: rest)

/-- The lines of a text as they are counted. -/
def countedLines (s : String) : List String := (ended (pieces '\n' s.toList)).map .ofList

/-- A text is one line, or it is a line, a line feed and another text. -/
@[elab_as_elim]
theorem lines_induction {motive : String → Prop} (last : ∀ s, OneLine s → motive s)
    (more : ∀ line rest, OneLine line → motive rest → motive (line ++ "\n" ++ rest)) (s : String) : motive s := by
  induction size : s.toList.length using Nat.strong_induction_on generalizing s with
  | _ n shorter =>
    by_cases line : OneLine s
    · exact last s line
    · -- Behind the first line feed the text is shorter.
      obtain ⟨p, q, split, clean⟩ := List.eq_append_cons_of_mem (not_not.mp line)
      have whole : s = .ofList p ++ "\n" ++ .ofList q := by
        apply String.toList_inj.mp
        simp [split]
      have less : (String.ofList q).toList.length < n := by
        rw [← size, split, String.toList_ofList, List.length_append, List.length_cons]
        omega
      rw [whole]
      refine more _ _ ?_ (shorter _ less _ rfl)
      rwa [OneLine, String.toList_ofList]

theorem countedLines_of_oneLine {s : String} (line : OneLine s) :
    countedLines s = if s = "" then [] else [s] := by
  rw [countedLines, pieces_of_not_mem line, ended]
  simp only [String.toList_eq_nil_iff]
  split_ifs <;> simp

/-- A line that a line feed ends comes first, without a carriage return. -/
theorem countedLines_append {line : String} (clean : OneLine line) (rest : String) :
    countedLines (line ++ "\n" ++ rest) = .ofList (dropReturn line.toList) :: countedLines rest := by
  have split : (line ++ "\n" ++ rest).toList = line.toList ++ '\n' :: rest.toList := by simp
  rw [countedLines, split, pieces_append, pieces_of_not_mem clean, List.singleton_append, countedLines]
  cases behind : pieces '\n' rest.toList with
  | nil => exact absurd behind (pieces_ne_nil _)
  | cons next more => rw [ended, List.map_cons]

example : countedLines "# a\r\n\r\nkey=1\nlast\r" = ["# a", "", "key=1", "last\r"] := by decide +kernel

/-- A carriage return at the end is a blank, and makes no difference to a trimmed line. -/
theorem trim_dropReturn (cs : List Char) : trim (.ofList (dropReturn cs)) = trim (.ofList cs) := by
  unfold dropReturn
  split_ifs with stop
  · obtain ⟨front, rfl⟩ := List.getLast?_eq_some_iff.mp stop
    have blank : isBlank '\r' = true := rfl
    have dropped : dropBlanksRight (front ++ ['\r']) = dropBlanksRight front := by
      simp [dropBlanksRight, blank]
    rw [List.dropLast_concat, trim, trim, String.toList_ofList, String.toList_ofList, ← trimChars_dropBlanksRight,
      ← dropped, trimChars_dropBlanksRight]
  · rfl

theorem oneLine_of_mem_countedLines {s line : String} (inside : line ∈ countedLines s) : OneLine line := by
  induction s using lines_induction with
  | last s clean =>
    rw [countedLines_of_oneLine clean] at inside
    split_ifs at inside
    · cases inside
    · rwa [List.mem_singleton.mp inside]
  | more start rest clean ih =>
    rw [countedLines_append clean, List.mem_cons] at inside
    rcases inside with rfl | later
    · rw [OneLine, String.toList_ofList, dropReturn]
      split_ifs
      · exact fun feed => clean (List.mem_of_mem_dropLast feed)
      · exact clean
    · exact ih later

/-- The first lines of a text are the lines of a front of it. -/
theorem exists_front {s : String} {first : List String} (start : first <+: countedLines s) :
    ∃ head tail, s = head ++ tail ∧ countedLines head = first := by
  induction s using lines_induction generalizing first with
  | last s clean =>
    by_cases none : first = []
    · exact ⟨"", s, String.empty_append.symm, by rw [none]; rfl⟩
    · refine ⟨s, "", String.append_empty.symm, ?_⟩
      have short : (countedLines s).length ≤ 1 := by
        rw [countedLines_of_oneLine clean]
        split_ifs <;> simp
      exact (start.eq_of_length_le (short.trans (List.length_pos_iff.mpr none))).symm
  | more line rest clean ih =>
    rw [countedLines_append clean, List.prefix_cons_iff] at start
    rcases start with rfl | ⟨later, rfl, start⟩
    · exact ⟨"", _, (String.empty_append).symm, rfl⟩
    · obtain ⟨head, tail, rfl, same⟩ := ih start
      refine ⟨line ++ "\n" ++ head, tail, by simp only [String.append_assoc], ?_⟩
      rw [countedLines_append clean, same]

end PrinterWiring.Text
