import Mathlib.Tactic.SplitIfs
import PrinterWiring.Toml.Reader
import PrinterWiring.Toml.Writer

/-!
# Quoted texts

Whichever of its four ways a text is written in, it is read back. Each way spells the text between delimiters
(`Spelled`, `quote_spelled`), and reading goes through a spelling character by character up to the closing delimiters
(`scanQuoted_spelled`). So what was quoted is one word, whose value is the text (`word?_quote`).
-/

namespace PrinterWiring.Toml

variable {delimiter c : Char} {multiline : Bool} {run : Nat} {cs text after read : List Char}

/-- How many delimiters in a row stand for themselves. -/
def delimitersInside (multiline : Bool) : Nat := if multiline then 2 else 0

/-- The spellings of a text between delimiters, behind `run` delimiters in a row. -/
inductive Spelled (delimiter : Char) (multiline : Bool) : Nat → List Char → List Char → Prop where
  | done {run : Nat} : Spelled delimiter multiline run [] []
  | delimiter {run : Nat} {cs text : List Char} (few : run < delimitersInside multiline)
    (rest : Spelled delimiter multiline (run + 1) cs text) :
    Spelled delimiter multiline run (delimiter :: cs) (delimiter :: text)
  | plain {run : Nat} {c : Char} {cs text : List Char} (other : c ≠ delimiter) (free : c = '\\' → delimiter ≠ '"')
    (stands : isPlain c = true ∨ (c = '\n' ∧ multiline = true)) (rest : Spelled delimiter multiline 0 cs text) :
    Spelled delimiter multiline run (c :: cs) (c :: text)
  | escape {run : Nat} {c : Char} {e cs text : List Char} (double : delimiter = '"')
    (stands : ∀ after, escape? (e ++ after) = some (c, after)) (rest : Spelled delimiter multiline 0 cs text) :
    Spelled delimiter multiline run (c :: cs) ('\\' :: (e ++ text))

/-! ## Reading a spelling -/

private theorem ne_return_of_isQuote (quotes : isQuote delimiter = true) : delimiter ≠ '\r' := by
  rintro rfl
  exact absurd quotes (by decide)

private theorem scanQuoted_plain (other : c ≠ delimiter) (free : c = '\\' → delimiter ≠ '"')
    (stands : isPlain c = true ∨ (c = '\n' ∧ multiline = true)) :
    scanQuoted delimiter multiline .none read (c :: cs) = scanQuoted delimiter multiline .none (c :: read) cs := by
  have line : c ≠ '\r' := by
    rintro rfl
    rcases stands with plain | ⟨lineEnd, _⟩
    · exact absurd plain (by decide)
    · exact absurd lineEnd (by decide)
  have unescaped : (c = '\\' && delimiter = '"') = false := by simpa using free
  have last : (isPlain c || (c = '\n' && multiline)) = true := by simpa using stands
  rw [scanQuoted, if_neg (by simp [line]), if_neg (by decide), if_neg (by simp), if_neg other, unescaped,
    if_neg Bool.false_ne_true, if_pos last]

private theorem scanQuoted_escape {rest : List Char} (stands : escape? cs = some (c, rest)) :
    scanQuoted '"' multiline .none read ('\\' :: cs) = scanQuoted '"' multiline .none (c :: read) rest := by
  rw [scanQuoted, if_neg (by simp), if_neg (by decide), if_neg (by simp), if_neg (by decide), if_pos (by simp)]
  split
  · next read =>
    obtain ⟨rfl, rfl⟩ := Prod.mk.inj (Option.some.inj (read.symm.trans stands))
    rfl
  · next missed => simp [missed] at stands

private theorem scanQuoted_delimiter (quotes : isQuote delimiter = true) (apart : cs.take 2 ≠ [delimiter, delimiter]) :
    scanQuoted delimiter true .none read (delimiter :: cs) =
      scanQuoted delimiter true .none (delimiter :: read) cs := by
  have shorter (n : Nat) (many : 2 ≤ n) : cs.take n ≠ List.replicate n delimiter := by
    intro same
    have front := congrArg (List.take 2) same
    rw [List.take_take, Nat.min_eq_left many, List.take_replicate, Nat.min_eq_left many] at front
    exact apart front
  have three : cs.take 3 ≠ [delimiter, delimiter, delimiter] := shorter 3 (by decide)
  have four : cs.take 4 ≠ [delimiter, delimiter, delimiter, delimiter] := shorter 4 (by decide)
  rw [scanQuoted]
  simp [ne_return_of_isQuote quotes, four, three, apart]

private theorem scanQuoted_single (quotes : isQuote delimiter = true) :
    scanQuoted delimiter false .none read (delimiter :: after) = some (.ofList read.reverse, after) := by
  rw [scanQuoted]
  simp [ne_return_of_isQuote quotes]

/-- Of five delimiters in a row at most, the last three close the text. -/
theorem scanQuoted_three (quotes : isQuote delimiter = true) (clear : after.head? ≠ some delimiter) (inside : Nat)
    (few : inside ≤ 2) :
    scanQuoted delimiter true .none read (List.replicate (inside + 3) delimiter ++ after) =
      some (.ofList (read.reverse ++ List.replicate inside delimiter), after) := by
  have apart : after.take 1 ≠ [delimiter] := by
    cases after <;> simp_all
  have line := ne_return_of_isQuote quotes
  match inside, few with
  | 0, _ =>
    show scanQuoted delimiter true .none read (delimiter :: delimiter :: delimiter :: after) = _
    rw [scanQuoted]
    simp [line]
    cases after <;> simp_all
  | 1, _ =>
    show scanQuoted delimiter true .none read (delimiter :: delimiter :: delimiter :: delimiter :: after) = _
    rw [scanQuoted]
    cases after <;> simp_all
  | 2, _ =>
    show scanQuoted delimiter true .none read
      (delimiter :: delimiter :: delimiter :: delimiter :: delimiter :: after) = _
    rw [scanQuoted]
    simp [line]

namespace Spelled

/-- The delimiters that close a text. -/
def closing (delimiter : Char) (multiline : Bool) : List Char :=
  List.replicate (delimitersInside multiline + 1) delimiter

/-- Behind a delimiter that stands for itself, the text ends after one more at most, or another character comes. -/
theorem behind_delimiter (spelled : Spelled delimiter true run cs text) (some_before : 1 ≤ run) :
    (∃ inside ≤ 1, cs = List.replicate inside delimiter ∧ text = List.replicate inside delimiter) ∨
      ∀ after, (text ++ after).take 2 ≠ [delimiter, delimiter] := by
  cases spelled with
  | done => exact .inl ⟨0, Nat.zero_le 1, rfl, rfl⟩
  | plain other => exact .inr fun after => by simp [other]
  | escape double => exact .inr fun after => by simp [double]
  | delimiter few rest =>
    cases rest with
    | done => exact .inl ⟨1, Nat.le_refl 1, rfl, rfl⟩
    | plain other => exact .inr fun after => by simp [other]
    | escape double => exact .inr fun after => by simp [double]
    | delimiter fewer => exact absurd fewer (by simp [delimitersInside] at few ⊢; omega)

/-- Reading goes through a spelling up to the delimiters that close it. -/
theorem scanQuoted_spelled (quotes : isQuote delimiter = true) (clear : after.head? ≠ some delimiter)
    (spelled : Spelled delimiter multiline run cs text) (read : List Char) :
    scanQuoted delimiter multiline .none read (text ++ closing delimiter multiline ++ after) =
      some (.ofList (read.reverse ++ cs), after) := by
  induction spelled generalizing read with
  | done =>
    cases multiline with
    | false =>
      show scanQuoted delimiter false .none read (delimiter :: after) = some (.ofList (read.reverse ++ []), after)
      rw [scanQuoted_single quotes, List.append_nil]
    | true => exact scanQuoted_three quotes clear 0 (Nat.zero_le 2)
  | @plain _ c cs text other free stands rest ih =>
    show scanQuoted delimiter multiline .none read (c :: (text ++ closing delimiter multiline ++ after)) = _
    rw [scanQuoted_plain other free stands, ih]
    simp
  | @escape _ c e cs text double stands rest ih =>
    subst double
    have stood := stands (text ++ closing '"' multiline ++ after)
    have parts : '\\' :: (e ++ text) ++ closing '"' multiline ++ after =
        '\\' :: (e ++ (text ++ closing '"' multiline ++ after)) := by simp
    rw [parts, scanQuoted_escape stood, ih]
    simp
  | @delimiter run cs text few rest ih =>
    obtain rfl : multiline = true := by
      revert few
      cases multiline <;> simp [delimitersInside]
    rcases behind_delimiter rest (Nat.le_add_left 1 run) with ⟨inside, few, rfl, rfl⟩ | apart
    · have all : delimiter :: List.replicate inside delimiter ++ closing delimiter true ++ after =
          List.replicate (inside + 1 + 3) delimiter ++ after := by
        rw [← List.replicate_succ, closing, List.replicate_append_replicate]
        rfl
      rw [all, scanQuoted_three quotes clear (inside + 1) (Nat.succ_le_succ few)]
      rfl
    · show scanQuoted delimiter true .none read (delimiter :: (text ++ closing delimiter true ++ after)) = _
      rw [scanQuoted_delimiter quotes (by simpa using apart (closing delimiter true ++ after)), ih]
      simp

end Spelled

/-! ## Writing -/

/-- Every code point below 128 is the one that its four digits read as. -/
theorem hexCharacter?_hexFour : ∀ n < 128, hexCharacter? (hexFour n) = some (.ofNat n) := by
  decide +kernel

private theorem escape?_hexFour {n : Nat} (below : n < 128) (after : List Char) :
    escape? ('u' :: (hexFour n ++ after)) = some (.ofNat n, after) := by
  show (hexCharacter? (hexFour n)).map (·, after) = _
  rw [hexCharacter?_hexFour n below]
  rfl

/-- A character that needs no escape may stand as it is, a line end only among lines. -/
theorem isPlain_of_not_needsEscape (clean : needsEscape c = false) (other : c ≠ '\n') : isPlain c = true := by
  simp only [needsEscape, isPlain, Bool.or_eq_false_iff, Bool.and_eq_false_iff, decide_eq_false_iff_not,
    Bool.or_eq_true, Bool.and_eq_true, decide_eq_true_eq] at clean ⊢
  by_cases tab : c = '\t'
  · exact .inl tab
  · exact .inr (by grind)

/-- A text with escapes is spelled between double quotes. -/
theorem spelled_escaped (multiline : Bool) (run : Nat) (cs : List Char) :
    Spelled '"' multiline run cs (escaped (delimitersInside multiline) multiline run cs) := by
  have short {c d e : Char} {cs text : List Char} {run : Nat} (same : c = d)
      (stands : ∀ after, escape? (e :: after) = some (d, after)) (rest : Spelled '"' multiline 0 cs text) :
      Spelled '"' multiline run (c :: cs) ('\\' :: e :: text) :=
    .escape (e := [e]) rfl (same ▸ stands) rest
  induction cs generalizing run with
  | nil => exact .done
  | cons c cs ih =>
    have numbered (n : Nat) (same : c.toNat = n) : c = .ofNat n := by rw [← same, Char.ofNat_toNat]
    rw [escaped]
    split_ifs with quote few lineEnd backslash feed tab carriage back formFeed control
    · subst quote
      exact .delimiter few (ih (run + 1))
    · subst quote
      exact short rfl (fun _ => rfl) (ih 0)
    · simp only [Bool.and_eq_true, decide_eq_true_eq] at lineEnd
      exact .plain quote (fun back => absurd (lineEnd.1.symm.trans back) (by decide)) (.inr lineEnd) (ih 0)
    · exact short backslash (fun _ => rfl) (ih 0)
    · exact short feed (fun _ => rfl) (ih 0)
    · exact short tab (fun _ => rfl) (ih 0)
    · exact short carriage (fun _ => rfl) (ih 0)
    · exact short (numbered 8 back) (fun _ => rfl) (ih 0)
    · exact short (numbered 12 formFeed) (fun _ => rfl) (ih 0)
    · have below : c.toNat < 128 := by
        simp only [needsEscape, Bool.or_eq_true, Bool.and_eq_true, decide_eq_true_eq] at control
        omega
      have stands (after : List Char) : escape? ('u' :: hexFour c.toNat ++ after) = some (c, after) := by
        rw [List.cons_append, escape?_hexFour below, Char.ofNat_toNat]
      exact .escape rfl stands (ih 0)
    · have plain : isPlain c = true := isPlain_of_not_needsEscape (by simpa using control) feed
      exact .plain quote (fun back => absurd back backslash) (.inl plain) (ih 0)

/-- The length of the longest run so far and of the present one, after one character more. -/
def countRun (delimiter : Char) (counts : Nat × Nat) (c : Char) : Nat × Nat :=
  if c = delimiter then (max counts.1 (counts.2 + 1), counts.2 + 1) else (counts.1, 0)

private theorem longestRun_eq (delimiter : Char) (cs : List Char) :
    longestRun delimiter cs = (cs.foldl (countRun delimiter) (0, 0)).1 := rfl

private theorem le_foldl_countRun (delimiter : Char) (counts : Nat × Nat) (cs : List Char) :
    counts.1 ≤ (cs.foldl (countRun delimiter) counts).1 := by
  induction cs generalizing counts with
  | nil => exact Nat.le_refl _
  | cons c cs ih =>
    refine Nat.le_trans ?_ (ih (countRun delimiter counts c))
    rw [countRun]
    split_ifs
    · exact Nat.le_max_left ..
    · exact Nat.le_refl _

private theorem spelled_literal_run {counts : Nat × Nat} (clean : ∀ c ∈ cs, needsEscape c = false)
    (lines : '\n' ∈ cs → multiline = true)
    (few : (cs.foldl (countRun apostrophe) counts).1 ≤ delimitersInside multiline) :
    Spelled apostrophe multiline counts.2 cs cs := by
  induction cs generalizing counts with
  | nil => exact .done
  | cons c cs ih =>
    have rest := @ih (countRun apostrophe counts c) (fun d inside => clean d (List.mem_cons_of_mem c inside))
      (fun inside => lines (List.mem_cons_of_mem c inside)) few
    by_cases same : c = apostrophe
    · have longest := Nat.le_trans (le_foldl_countRun apostrophe (countRun apostrophe counts c) cs) few
      rw [countRun, if_pos same] at rest longest
      subst same
      exact .delimiter (Nat.le_trans (Nat.le_max_right ..) longest) rest
    · rw [countRun, if_neg same] at rest
      refine .plain same (fun _ => by decide) ?_ rest
      by_cases lineEnd : c = '\n'
      · exact .inr ⟨lineEnd, lines (lineEnd ▸ List.mem_cons_self)⟩
      · exact .inl (isPlain_of_not_needsEscape (clean c List.mem_cons_self) lineEnd)

/-- A text without characters that need an escape, and with few delimiters in a row, spells itself between single
quotes. -/
theorem spelled_literal (clean : cs.any needsEscape = false) (lines : '\n' ∈ cs → multiline = true)
    (few : longestRun apostrophe cs ≤ delimitersInside multiline) : Spelled apostrophe multiline 0 cs cs := by
  rw [longestRun_eq] at few
  exact spelled_literal_run (by simpa using clean) lines few

/-! ## Words -/

private theorem dropLineEnd_cons (feed : c ≠ '\n') (carriage : c ≠ '\r') : dropLineEnd (c :: cs) = c :: cs := by
  unfold dropLineEnd
  split <;> simp_all

theorem isQuote_iff : isQuote c = true ↔ c = '"' ∨ c = apostrophe := by
  simp [isQuote]

/-- What is spelled without a line end does not begin with one. -/
theorem dropLineEnd_spelled (quotes : isQuote delimiter = true) (spelled : Spelled delimiter true run cs text)
    (one : '\n' ∉ cs) :
    dropLineEnd (text ++ .replicate 3 delimiter ++ after) = text ++ .replicate 3 delimiter ++ after := by
  have feed : delimiter ≠ '\n' := by
    rintro rfl
    exact absurd quotes (by decide)
  cases spelled with
  | done => exact dropLineEnd_cons feed (ne_return_of_isQuote quotes)
  | delimiter => exact dropLineEnd_cons feed (ne_return_of_isQuote quotes)
  | escape => exact dropLineEnd_cons (by decide) (by decide)
  | @plain _ c cs text other free stands rest =>
    have feed : c ≠ '\n' := fun same => one (same ▸ List.mem_cons_self)
    rcases stands with plain | ⟨lineEnd, _⟩
    · refine dropLineEnd_cons feed ?_
      rintro rfl
      exact absurd plain (by decide)
    · exact absurd lineEnd feed

/-- The shapes of a quoted text: its spelling stands between single delimiters, or between three of them, where a line
end may come first that is not part of it. -/
inductive Quotation (s : String) : String → Prop where
  | single {delimiter : Char} {text : List Char} (quotes : isQuote delimiter = true)
    (spelled : Spelled delimiter false 0 s.toList text) : Quotation s (.ofList ([delimiter] ++ text ++ [delimiter]))
  | three {delimiter : Char} {opening text : List Char} (quotes : isQuote delimiter = true)
    (opens : opening = ['\n'] ∨ opening = [] ∧ '\n' ∉ s.toList)
    (spelled : Spelled delimiter true 0 s.toList text) :
    Quotation s (.ofList ([delimiter, delimiter, delimiter] ++ opening ++ text ++ [delimiter, delimiter, delimiter]))

/-- What is quoted is a quotation of the text. -/
theorem quotation_quote (s : String) : Quotation s (quote s) := by
  have opens : (if s.toList.contains '\n' then ['\n'] else []) = ['\n'] ∨
      (if s.toList.contains '\n' then ['\n'] else []) = [] ∧ '\n' ∉ s.toList := by
    split_ifs with lines <;> simp_all
  simp only [quote]
  split
  · exact .single rfl (spelled_escaped false 0 s.toList)
  · split
    · next literal =>
      simp only [Bool.and_eq_true, Bool.not_eq_true', decide_eq_true_eq] at literal
      obtain ⟨⟨clean, none⟩, one⟩ := literal
      exact .single rfl (spelled_literal clean (by simp_all) (Nat.le_of_eq none))
    · split
      · exact .three rfl opens (spelled_escaped true 0 s.toList)
      · split
        · next literal =>
          simp only [Bool.and_eq_true, Bool.not_eq_true', decide_eq_true_eq] at literal
          exact .three rfl opens (spelled_literal literal.1 (fun _ => rfl) literal.2)
        · split
          · exact .three rfl (.inl rfl) (spelled_escaped true 0 s.toList)
          · exact .single rfl (spelled_escaped false 0 s.toList)

private theorem quoted?_single (quotes : isQuote delimiter = true) (clear : after.head? ≠ some delimiter)
    (spelled : Spelled delimiter false 0 cs text) :
    quoted? delimiter (text ++ [delimiter] ++ after) = some (.quoted (.ofList cs), after) := by
  have one : (text ++ [delimiter] ++ after).take 2 ≠ [delimiter, delimiter] := by
    cases spelled with
    | done => cases after <;> simp_all
    | delimiter few => exact absurd few (by simp [delimitersInside])
    | plain other => simp [other]
    | escape double => simp [double]
  have scanned := Spelled.scanQuoted_spelled quotes clear spelled []
  rw [quoted?, if_neg one]
  exact congrArg (Option.map _) scanned

private theorem quoted?_three {opening : List Char} (quotes : isQuote delimiter = true)
    (clear : after.head? ≠ some delimiter)
    (opens : opening = ['\n'] ∨ opening = [] ∧ '\n' ∉ cs) (spelled : Spelled delimiter true 0 cs text) :
    quoted? delimiter ([delimiter, delimiter] ++ opening ++ text ++ [delimiter, delimiter, delimiter] ++ after) =
      some (.lines (.ofList cs), after) := by
  have inside : dropLineEnd (opening ++ text ++ .replicate 3 delimiter ++ after) =
      text ++ .replicate 3 delimiter ++ after := by
    rcases opens with rfl | ⟨rfl, one⟩
    · rfl
    · exact dropLineEnd_spelled quotes spelled one
  have scanned := Spelled.scanQuoted_spelled quotes clear spelled []
  rw [quoted?, if_pos (by simp)]
  show (scanQuoted delimiter true .none [] (dropLineEnd (opening ++ text ++ .replicate 3 delimiter ++ after))).map _ = _
  rw [inside]
  exact congrArg (Option.map _) scanned

theorem Quotation.opens {s quoted : String} (q : Quotation s quoted) :
    ∃ delimiter cs, isQuote delimiter = true ∧ quoted.toList = delimiter :: cs := by
  cases q with
  | single quotes => exact ⟨_, _, quotes, String.toList_ofList⟩
  | three quotes => exact ⟨_, _, quotes, String.toList_ofList⟩

/-- A quoted text is one word, and the text is its value. -/
theorem word?_quote (s : String) (clear : ∀ d, isQuote d = true → after.head? ≠ some d) :
    ∃ w, word? ((quote s).toList ++ after) = some (w, after) ∧ value? [w] = some (.text s) := by
  have q := quotation_quote s
  revert q
  generalize quote s = quoted
  intro q
  cases q with
  | @single delimiter text quotes spelled =>
    refine ⟨.quoted s, ?_, rfl⟩
    have read := quoted?_single quotes (clear delimiter quotes) spelled
    rw [String.toList_ofList]
    show (if isQuote delimiter then quoted? delimiter (text ++ [delimiter] ++ after) else _) = _
    rw [if_pos quotes, read, String.ofList_toList]
  | @three delimiter opening text quotes opens spelled =>
    refine ⟨.lines s, ?_, rfl⟩
    have read := quoted?_three quotes (clear delimiter quotes) opens spelled
    rw [String.toList_ofList]
    show (if isQuote delimiter then quoted? delimiter
      ([delimiter, delimiter] ++ opening ++ text ++ [delimiter, delimiter, delimiter] ++ after) else _) = _
    rw [if_pos quotes, read, String.ofList_toList]

end PrinterWiring.Toml
