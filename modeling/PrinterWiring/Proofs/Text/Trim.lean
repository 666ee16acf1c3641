import PrinterWiring.Proofs.Text.Cut
import PrinterWiring.Proofs.Text.Fold
import PrinterWiring.Text.Blank

/-!
# Trimmed texts

Trimming takes a contiguous part out of a text, and trimming at the end first changes nothing of what is left. Blanks
have no letter case, so that a text is trimmed exactly if it is in another case.
-/

namespace PrinterWiring.Text

/-! ## Blanks at the end -/

theorem dropBlanksRight_eq (cs : List Char) : dropBlanksRight cs = cs.rdropWhile isBlank := rfl

private theorem dropBlanksRight_cons (c : Char) (cs : List Char) : dropBlanksRight (c :: cs) =
    if dropBlanksRight cs = [] ∧ isBlank c = true then [] else c :: dropBlanksRight cs := by
  simp only [dropBlanksRight, List.reverse_cons, List.dropWhile_append, List.isEmpty_iff, List.reverse_eq_nil_iff]
  by_cases rest : cs.reverse.dropWhile isBlank = []
  · cases blank : isBlank c <;> simp [rest, List.dropWhile, blank]
  · simp [rest]

private theorem dropBlanksRight_append_of_last {p : List Char} (cs : List Char)
    (filled : ∀ c ∈ p.getLast?, isBlank c = false) :
    dropBlanksRight (p ++ cs) = p ++ dropBlanksRight cs := by
  induction p with
  | nil => rfl
  | cons c p ih =>
    have later : dropBlanksRight (p ++ cs) = p ++ dropBlanksRight cs := by
      refine ih fun d last => filled d ?_
      cases p with
      | nil => cases last
      | cons e p => rwa [List.getLast?_cons_cons]
    have stays : ¬ (p ++ dropBlanksRight cs = [] ∧ isBlank c = true) := by
      rintro ⟨gone, blank⟩
      obtain ⟨rfl, -⟩ := List.append_eq_nil_iff.mp gone
      simp [filled c rfl] at blank
    rw [List.cons_append, dropBlanksRight_cons, later, if_neg stays, List.cons_append]

private theorem dropWhile_dropBlanksRight (cs : List Char) :
    (dropBlanksRight cs).dropWhile isBlank = dropBlanksRight (cs.dropWhile isBlank) := by
  induction cs with
  | nil => rfl
  | cons c cs ih =>
    rw [dropBlanksRight_cons]
    cases blank : isBlank c with
    | true =>
      rw [List.dropWhile_cons_of_pos blank, ← ih]
      by_cases rest : dropBlanksRight cs = []
      · simp [rest]
      · simp [rest, List.dropWhile_cons_of_pos blank]
    | false =>
      have apart : ¬ isBlank c = true := by simp [blank]
      rw [List.dropWhile_cons_of_neg apart, dropBlanksRight_cons]
      simp [apart]

/-! ## Trimming -/

theorem trimChars_dropBlanksRight (cs : List Char) : trimChars (dropBlanksRight cs) = trimChars cs := by
  rw [trimChars, dropWhile_dropBlanksRight, dropBlanksRight_eq, dropBlanksRight_eq, List.rdropWhile_idempotent]
  rfl

private theorem trimChars_within (cs : List Char) : trimChars cs <:+: cs :=
  (List.rdropWhile_prefix isBlank _).isInfix.trans (List.dropWhile_suffix isBlank).isInfix

private theorem trimChars_trimChars (cs : List Char) : trimChars (trimChars cs) = trimChars cs := by
  rw [trimChars, trimChars, dropWhile_dropBlanksRight, List.dropWhile_idempotent, dropBlanksRight_eq,
    dropBlanksRight_eq, List.rdropWhile_idempotent]

/-- A trimmed text has nothing left to trim. -/
@[simp] theorem trim_trim (s : String) : trim (trim s) = trim s := by
  simp only [trim, String.toList_ofList, trimChars_trimChars]

theorem toList_trim (s : String) : (trim s).toList = trimChars s.toList := by simp [trim]

theorem trim_within (s : String) : (trim s).toList <:+: s.toList := by
  rw [toList_trim]
  exact trimChars_within _

theorem OneLine.within {s t : String} (inside : s.toList <:+: t.toList) (line : OneLine t) : OneLine s :=
  fun feed => line (inside.subset feed)

theorem OneLine.trim {s : String} (line : OneLine s) : OneLine (trim s) := line.within (trim_within s)

/-- Of a text in front that neither starts nor ends with a blank, trimming takes nothing away. -/
theorem trimChars_append {p : List Char} (filled : p ≠ []) (cs : List Char)
    (first : ∀ c ∈ p.head?, isBlank c = false) (last : ∀ c ∈ p.getLast?, isBlank c = false) :
    trimChars (p ++ cs) = p ++ dropBlanksRight cs := by
  cases p with
  | nil => exact absurd rfl filled
  | cons c p =>
    have apart : ¬ isBlank c = true := by simp [first c rfl]
    rw [trimChars, List.cons_append, List.dropWhile_cons_of_neg apart, ← List.cons_append,
      dropBlanksRight_append_of_last _ last]

/-- A text without blanks is trimmed. -/
theorem trim_of_solid {s : String} (solid : ∀ c ∈ s.toList, isBlank c = false) : trim s = s := by
  by_cases none : s.toList = []
  · rw [trim, none, String.toList_eq_nil_iff.mp none]
    rfl
  · have kept := trimChars_append none []
      (fun c first => solid c (List.mem_of_mem_head? first)) (fun c last => solid c (List.mem_of_mem_getLast? last))
    rw [List.append_nil] at kept
    rw [trim, kept]
    simp [dropBlanksRight]

theorem trim_eq_self_of_length {s : String} (same : (trim s).toList.length = s.toList.length) : trim s = s := by
  rw [toList_trim] at same
  rw [trim, (trimChars_within s.toList).eq_of_length same, String.ofList_toList]

/-! ## Texts that are not blank -/

/-- A text with a character that is no white space. -/
def NonBlank (s : String) : Prop := ∃ c ∈ s.toList, isBlank c = false

theorem isAllBlank_eq_false {s : String} : isAllBlank s = false ↔ NonBlank s := by
  simp [isAllBlank, NonBlank]

theorem trim_ne_empty {s : String} (named : NonBlank s) : trim s ≠ "" := by
  obtain ⟨c, inside, solid⟩ := named
  intro none
  have nothing : dropBlanksRight (s.toList.dropWhile isBlank) = [] := by
    rw [← trimChars, ← toList_trim, none, String.toList_empty]
  rw [dropBlanksRight_eq, List.rdropWhile_eq_nil_iff] at nothing
  rw [← List.takeWhile_append_dropWhile (p := isBlank) (l := s.toList), List.mem_append] at inside
  have blank : isBlank c = true := inside.elim List.mem_takeWhile_imp (nothing c)
  exact absurd (solid.symm.trans blank) nofun

theorem nonEmpty?_eq_some {s v : String} : nonEmpty? s = some v ↔ s = v ∧ v ≠ "" := by
  unfold nonEmpty?
  split_ifs with none
  · rw [String.isEmpty_iff] at none
    simp only [none, false_iff]
    rintro ⟨rfl, filled⟩
    exact filled rfl
  · rw [String.isEmpty_iff] at none
    simp only [Option.some.injEq]
    exact ⟨fun same => ⟨same, same ▸ none⟩, And.left⟩

/-! ## Letter case -/

private theorem toNat_toLower {c : Char} (upper : c.isUpper = true) :
    65 ≤ c.toNat ∧ c.toNat ≤ 90 ∧ c.toLower.toNat = c.toNat + 32 := by
  have bounds : 65 ≤ c.toNat ∧ c.toNat ≤ 90 := by
    simpa [Char.isUpper, UInt32.le_iff_toNat_le] using upper
  have valid : (c.toNat + 32).isValidChar := .inl (by omega)
  refine ⟨bounds.1, bounds.2, ?_⟩
  rw [Char.toLower_eq_of_isUpper upper, Char.ofNat, dif_pos valid]
  rfl

private theorem isBlank_toLower (c : Char) : isBlank c.toLower = isBlank c := by
  by_cases upper : c.isUpper = true
  · obtain ⟨least, greatest, lowered⟩ := toNat_toLower upper
    simp only [isBlank, blankRanges, lowered, List.any_cons, List.any_nil]
    rw [Bool.eq_iff_iff]
    simp only [Bool.or_eq_true, Bool.and_eq_true, decide_eq_true_eq, Bool.false_eq_true, or_false]
    omega
  · rw [Char.toLower_eq_of_not_isUpper upper]

private theorem toLower_eq_lineFeed {c : Char} : c.toLower = '\n' ↔ c = '\n' := by
  by_cases upper : c.isUpper = true
  · obtain ⟨least, greatest, lowered⟩ := toNat_toLower upper
    have feed : ('\n' : Char).toNat = 10 := rfl
    rw [← Char.toNat_inj, ← Char.toNat_inj, lowered, feed]
    omega
  · rw [Char.toLower_eq_of_not_isUpper upper]

private theorem trimChars_toLower (cs : List Char) :
    trimChars (cs.map Char.toLower) = (trimChars cs).map Char.toLower := by
  have blanks : isBlank ∘ Char.toLower = isBlank := funext isBlank_toLower
  simp only [trimChars, dropBlanksRight, ← List.map_reverse, List.dropWhile_map, blanks]

namespace SameLetters

variable {s t : String}

theorem toList (same : SameLetters s t) : s.toList.map Char.toLower = t.toList.map Char.toLower :=
  String.ofList_inj.mp same

theorem length (same : SameLetters s t) : s.toList.length = t.toList.length := by
  simpa using congrArg List.length same.toList

theorem oneLine (same : SameLetters s t) (line : OneLine t) : OneLine s := by
  have folded (u : String) : '\n' ∈ u.toList ↔ '\n' ∈ u.toList.map Char.toLower := by
    simp only [List.mem_map, toLower_eq_lineFeed, exists_eq_right]
  rwa [OneLine, folded, same.toList, ← folded]

/-- Texts with the same letters are trimmed alike. -/
theorem trim_eq (same : SameLetters s t) (trimmed : trim t = t) : trim s = s := by
  apply trim_eq_self_of_length
  have lengths := congrArg (List.length ∘ trimChars) same.toList
  simp only [Function.comp_apply, trimChars_toLower, List.length_map] at lengths
  rw [toList_trim, lengths, ← toList_trim, trimmed, same.length]

end SameLetters

end PrinterWiring.Text
