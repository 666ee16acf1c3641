import PrinterWiring.Proofs.Text.Trim
import PrinterWiring.Text.Numeral

/-!
# Reading numbers back

The decimal digits of a number below the bound are read as that number, and no number that is read reaches the bound.
-/

namespace PrinterWiring.Text

theorem ofDigitChars_ge (cs : List Char) (value : Nat) : value ≤ Nat.ofDigitChars 10 cs value := by
  induction cs generalizing value with
  | nil => simp
  | cons c cs ih =>
    rw [Nat.ofDigitChars_cons]
    have later := ih (10 * value + (c.toNat - '0'.toNat))
    omega

theorem readDigits_ok {bound value : Nat} {cs : List Char} (digits : ∀ c ∈ cs, c.isDigit = true)
    (below : Nat.ofDigitChars 10 cs value < bound) :
    readDigits bound value cs = .ok (Nat.ofDigitChars 10 cs value) := by
  induction cs generalizing value with
  | nil => simp [readDigits]
  | cons c cs ih =>
    rw [Nat.ofDigitChars_cons] at below ⊢
    have here : 10 * value + digitValue c < bound := Nat.lt_of_le_of_lt (ofDigitChars_ge cs _) below
    simp only [readDigits, digits c (List.mem_cons_self ..), Bool.not_true, Bool.false_eq_true, if_false, here, if_true]
    exact ih (fun d inside => digits d (List.mem_cons_of_mem _ inside)) below

theorem isDigit_of_mem_toString {n : Nat} {c : Char} (inside : c ∈ (toString n).toList) : c.isDigit = true := by
  rw [Nat.toString_eq_repr, Nat.toList_repr] at inside
  exact Nat.isDigit_of_mem_toDigits (by omega) (by omega) inside

theorem isBlank_of_isDigit {c : Char} (digit : c.isDigit = true) : isBlank c = false := by
  have bounds : 48 ≤ c.toNat ∧ c.toNat ≤ 57 := by
    simpa [Char.isDigit, UInt32.le_iff_toNat_le] using digit
  rw [Bool.eq_false_iff]
  simp only [isBlank, blankRanges, List.any_cons, List.any_nil, ne_eq, Bool.or_eq_true, Bool.and_eq_true,
    decide_eq_true_eq, Bool.false_eq_true, or_false]
  omega

/-- A number is written without blanks. -/
theorem trim_toString (n : Nat) : trim (toString n) = toString n :=
  trim_of_solid fun _ inside => isBlank_of_isDigit (isDigit_of_mem_toString inside)

/-- A number that is written is read back. -/
theorem readNumeral_toString {bound n : Nat} (below : n < bound) : readNumeral bound (toString n) = .ok n := by
  have value : Nat.ofDigitChars 10 (toString n).toList 0 = n := by
    rw [Nat.toString_eq_repr, Nat.toList_repr, Nat.ofDigitChars_ten_toDigits]
  have read := readDigits_ok (fun c => isDigit_of_mem_toString (n := n)) (value.symm ▸ below)
  rw [value] at read
  unfold readNumeral
  split
  · next none =>
    rw [Nat.toString_eq_repr, Nat.toList_repr] at none
    exact absurd none Nat.toDigits_ne_nil
  · next plus =>
    have digit := isDigit_of_mem_toString (n := n) (c := '+') (plus ▸ List.mem_cons_self ..)
    cases digit
  · next plus =>
    have digit := isDigit_of_mem_toString (n := n) (c := '+') (plus ▸ List.mem_cons_self ..)
    cases digit
  · exact read

theorem readDigits_lt {bound value n : Nat} {cs : List Char} (start : value < bound)
    (read : readDigits bound value cs = .ok n) : n < bound := by
  induction cs generalizing value with
  | nil =>
    cases read
    exact start
  | cons c cs ih =>
    unfold readDigits at read
    split at read
    · cases read
    · split at read
      · next below => exact ih below read
      · cases read

theorem readNumeral_lt {bound n : Nat} {s : String} (positive : 0 < bound) (read : readNumeral bound s = .ok n) :
    n < bound := by
  unfold readNumeral at read
  split at read
  · cases read
  · cases read
  · exact readDigits_lt positive read
  · exact readDigits_lt positive read

end PrinterWiring.Text
