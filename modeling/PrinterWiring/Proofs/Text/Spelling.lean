import PrinterWiring.Proofs.Text.Numeral

/-!
# Spellings of a number

A number is spelled by its digits, which may have zeros and a plus sign in front and blanks around them. A text is read
as a number exactly if it spells it and the number is below the bound (`readNumeral_eq_ok`); what reaches the bound is
refused and does not wrap.
-/

namespace PrinterWiring.Text

/-- At least one digit, and the number that the digits say. -/
structure Digits (n : Nat) (cs : List Char) : Prop where
  filled : cs ≠ []
  digits : ∀ c ∈ cs, c.isDigit = true
  value : Nat.ofDigitChars 10 cs 0 = n

/-- Digits, and in front of them a plus sign or nothing. -/
inductive Numeral (n : Nat) : List Char → Prop where
  | plain {cs : List Char} (digits : Digits n cs) : Numeral n cs
  | signed {cs : List Char} (digits : Digits n cs) : Numeral n ('+' :: cs)

/-- A text that spells a number: a numeral, and blanks around it. -/
def Spells (n : Nat) (v : String) : Prop :=
  ∃ front word back : List Char, v.toList = front ++ word ++ back ∧ (∀ c ∈ front, isBlank c = true) ∧
    (∀ c ∈ back, isBlank c = true) ∧ Numeral n word

variable {bound value n : Nat} {cs : List Char} {v : String}

/-! ## Reading digits -/

/-- Digits are read as the number that they spell, and nothing else is. -/
theorem readDigits_eq_ok (start : value < bound) : readDigits bound value cs = .ok n ↔
    (∀ c ∈ cs, c.isDigit = true) ∧ Nat.ofDigitChars 10 cs value = n ∧ n < bound := by
  constructor
  · intro read
    have below := readDigits_lt start read
    induction cs generalizing value with
    | nil =>
      cases read
      exact ⟨nofun, rfl, below⟩
    | cons c cs ih =>
      unfold readDigits at read
      split_ifs at read with other here
      obtain ⟨digits, same, _⟩ := ih here read
      have digit : c.isDigit = true := by simpa using other
      rw [Nat.ofDigitChars_cons]
      exact ⟨List.forall_mem_cons.mpr ⟨digit, digits⟩, same, below⟩
  · rintro ⟨digits, rfl, below⟩
    exact readDigits_ok digits below

private theorem Digits.readDigits_iff (positive : 0 < bound) (filled : cs ≠ []) :
    readDigits bound 0 cs = .ok n ↔ Digits n cs ∧ n < bound := by
  rw [readDigits_eq_ok positive]
  constructor
  · rintro ⟨digits, same, below⟩
    exact ⟨⟨filled, digits, same⟩, below⟩
  · rintro ⟨number, below⟩
    exact ⟨number.digits, number.value, below⟩

private theorem not_digits_plus : ¬ Digits n ('+' :: cs) := by
  intro number
  exact absurd (number.digits '+' (List.mem_cons_self ..)) (by decide)

private theorem numeral_plus : Numeral n ('+' :: cs) ↔ Digits n cs := by
  constructor
  · intro word
    cases word with
    | plain number => exact absurd number not_digits_plus
    | signed number => exact number
  · exact .signed

/-- What is read is a numeral, and no number that reaches the bound is read. -/
theorem readNumeral_eq_ok (positive : 0 < bound) :
    readNumeral bound v = .ok n ↔ Numeral n v.toList ∧ n < bound := by
  unfold readNumeral
  split
  · next none =>
    rw [none]
    simp only [reduceCtorEq, false_iff]
    rintro ⟨_ | _, _⟩
    next number => exact number.filled rfl
  · next sign =>
    rw [sign, numeral_plus]
    simp only [reduceCtorEq, false_iff]
    rintro ⟨number, _⟩
    exact number.filled rfl
  · next digits more sign =>
    rw [sign, numeral_plus]
    exact Digits.readDigits_iff positive more
  · next filled lone other =>
    have plain : Numeral n v.toList ↔ Digits n v.toList := by
      constructor
      · generalize v.toList = word at other
        intro number
        cases number with
        | plain number => exact number
        | signed number => exact absurd rfl (other _)
      · exact .plain
    rw [plain]
    exact Digits.readDigits_iff positive filled

/-! ## Blanks around a numeral -/

theorem Numeral.solid (word : Numeral n cs) : cs ≠ [] ∧ ∀ c ∈ cs, isBlank c = false := by
  cases word with
  | plain number => exact ⟨number.filled, fun c inside => isBlank_of_isDigit (number.digits c inside)⟩
  | signed number =>
    refine ⟨nofun, List.forall_mem_cons.mpr ⟨by decide, ?_⟩⟩
    exact fun c inside => isBlank_of_isDigit (number.digits c inside)

private theorem dropBlanksRight_eq_nil {cs : List Char} : dropBlanksRight cs = [] ↔ ∀ c ∈ cs, isBlank c = true := by
  rw [dropBlanksRight_eq, List.rdropWhile_eq_nil_iff]

/-- What trimming takes away stands at the ends, and is blank. -/
theorem exists_blanks (cs : List Char) : ∃ front back, cs = front ++ trimChars cs ++ back ∧
    (∀ c ∈ front, isBlank c = true) ∧ ∀ c ∈ back, isBlank c = true := by
  have back : cs.dropWhile isBlank = trimChars cs ++ (cs.dropWhile isBlank).rtakeWhile isBlank := by
    rw [trimChars, dropBlanksRight_eq, List.rdropWhile_append_rtakeWhile]
  refine ⟨cs.takeWhile isBlank, (cs.dropWhile isBlank).rtakeWhile isBlank, ?_, ?_, ?_⟩
  · rw [List.append_assoc, ← back, List.takeWhile_append_dropWhile]
  · exact fun c => List.mem_takeWhile_imp
  · exact fun c => List.mem_rtakeWhile_imp

/-- Of a word between blanks only the word is left. -/
theorem trimChars_of_blanks {front word back : List Char} (before : ∀ c ∈ front, isBlank c = true)
    (behind : ∀ c ∈ back, isBlank c = true) (filled : word ≠ []) (solid : ∀ c ∈ word, isBlank c = false) :
    trimChars (front ++ word ++ back) = word := by
  have kept := trimChars_append filled back (fun c first => solid c (List.mem_of_mem_head? first))
    (fun c last => solid c (List.mem_of_mem_getLast? last))
  rw [dropBlanksRight_eq_nil.mpr behind, List.append_nil] at kept
  rw [List.append_assoc, trimChars, List.dropWhile_append_of_pos before, ← trimChars, kept]

/-- A text spells a number exactly if, trimmed, it is a numeral for it. -/
theorem spells_iff : Spells n v ↔ Numeral n (trim v).toList := by
  rw [toList_trim]
  constructor
  · rintro ⟨front, word, back, whole, before, behind, number⟩
    rw [whole, trimChars_of_blanks before behind number.solid.1 number.solid.2]
    exact number
  · intro number
    obtain ⟨front, back, whole, before, behind⟩ := exists_blanks v.toList
    exact ⟨front, _, back, whole, before, behind, number⟩

/-- A text spells no two numbers. -/
theorem Spells.unique {m : Nat} (first : Spells m v) (second : Spells n v) : m = n := by
  have read {l : Nat} (spelled : Spells l v) (below : l < m + n + 1) : readNumeral (m + n + 1) (trim v) = .ok l :=
    (readNumeral_eq_ok (by omega)).mpr ⟨spells_iff.mp spelled, below⟩
  exact Except.ok.inj ((read first (by omega)).symm.trans (read second (by omega)))

end PrinterWiring.Text
