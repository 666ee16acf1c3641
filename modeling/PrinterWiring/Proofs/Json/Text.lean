import Mathlib.Tactic.SplitIfs
import PrinterWiring.Json.Decode
import PrinterWiring.Json.Writer
import PrinterWiring.Proofs.Text.Numeral

/-!
# Written JSON is read back

In either layout the text of a value is cut into the tokens that the value is made of (`compact_cuts`, `pretty_cuts`),
and these are put together to the value again (`readValue_words`). This holds of values that have a text of their own
(`Plain`): complete ones, made of `null`, truth values, texts and natural numbers of 64 bits.
-/

namespace PrinterWiring.Json

variable {c : Char} {read cs rest : List Char} {t : Token} {v : Json}

/-- A value with a text of its own. -/
inductive Plain : Json → Prop where
  | null : Plain .null
  | bool (b : Bool) : Plain (.bool b)
  | nat {n : Nat} (small : n < UInt64.size) : Plain (.nat n)
  | text (s : String) : Plain (.text s)
  | arr {items : List Json} (each : ∀ v ∈ items, Plain v) : Plain (.arr items)
  | obj {members : List (String × Json)} (each : ∀ m ∈ members, Plain m.2) : Plain (.obj members)

mutual

/-- The tokens of a value. -/
def words : Json → List Token
  | .text s => [.string (some s)]
  | .list items _ => .openList :: (wordsOfItems items ++ [.closeList])
  | .record members _ => .openRecord :: (wordsOfMembers members ++ [.closeRecord])
  | v => [.scalar v]

/-- The tokens of the items and of the commas between them. -/
def wordsOfItems : List Json → List Token
  | [] => []
  | [v] => words v
  | v :: vs => words v ++ .comma :: wordsOfItems vs

/-- The tokens of the members and of the commas between them. -/
def wordsOfMembers : List (Option String × Json) → List Token
  | [] => []
  | [(key, v)] => .string key :: .colon :: words v
  | (key, v) :: ms => .string key :: .colon :: (words v ++ .comma :: wordsOfMembers ms)

end

/-! ## Strings -/

private theorem unit?_control : ∀ n < 32, unit? '0' '0' (hexDigit (n / 16)) (hexDigit (n % 16)) = some n := by decide

/-- An escaped character is read as the character. -/
theorem scanString_escape (c : Char) :
    scanString read none true (escape c ++ cs) = scanString (c :: read) none true cs := by
  have mark {e d : Char} (apart : e ≠ 'u') (means : escaped? e = some d) :
      scanString read none true ('\\' :: e :: cs) = scanString (d :: read) none true cs := by
    rw [scanString, means]
    · rfl
    · rintro _ _ _ _ _ rfl
      exact absurd rfl apart
  have named {n : Nat} (same : c.toNat = n) : Char.ofNat n = c := same ▸ Char.ofNat_toNat c
  unfold escape
  split_ifs with quotes backslash line back tab eight twelve control
  · rw [quotes]
    exact mark (by decide) (by decide)
  · rw [backslash]
    exact mark (by decide) (by decide)
  · rw [line]
    exact mark (by decide) (by decide)
  · rw [back]
    exact mark (by decide) (by decide)
  · rw [tab]
    exact mark (by decide) (by decide)
  · exact named eight ▸ mark (by decide) (by decide)
  · exact named twelve ▸ mark (by decide) (by decide)
  · have high : isHigh c.toNat = false := by simp [isHigh]; omega
    have low : isLow c.toNat = false := by simp [isLow]; omega
    simp [scanString, unit?_control c.toNat control, high, low, Char.ofNat_toNat]
  · rw [List.singleton_append, scanString]
    · simp [control, backslash]
    · exact fun same => quotes same
    · rintro _ _ _ _ _ same _
      exact backslash same
    · rintro _ _ same _
      exact backslash same

/-- What stands between quotes is read back as it was before it was escaped. -/
theorem scanString_text (text : List Char) :
    scanString read none true (text.flatMap escape ++ '"' :: rest) =
      some (some (.ofList (read.reverse ++ text)), rest) := by
  induction text generalizing read with
  | nil => simp [scanString]
  | cons c text ih => rw [List.flatMap_cons, List.append_assoc, scanString_escape, ih]; simp

/-! ## Numbers -/

/-- Whether a number that stands before these characters ends there. -/
def EndsNumber (cs : List Char) : Prop := ∀ c ∈ cs.head?, c.isDigit = false ∧ c ≠ '.' ∧ c ≠ 'e' ∧ c ≠ 'E'

private theorem digits?_append {ds : List Char} (some_digits : ds ≠ []) (digits : ∀ c ∈ ds, c.isDigit = true)
    (ends : EndsNumber rest) : digits? (ds ++ rest) = some (ds, rest) := by
  have taken : rest.takeWhile Char.isDigit = [] := by
    cases rest with
    | nil => rfl
    | cons c cs => rw [List.takeWhile_cons_of_neg]; simp [(ends c rfl).1]
  have dropped : rest.dropWhile Char.isDigit = rest := by
    cases rest with
    | nil => rfl
    | cons c cs => rw [List.dropWhile_cons_of_neg]; simp [(ends c rfl).1]
  rw [digits?, List.takeWhile_append_of_pos digits, List.dropWhile_append_of_pos digits, taken, dropped,
    List.append_nil, if_neg (by simpa using some_digits)]

private theorem fraction?_none (ends : EndsNumber cs) : fraction? cs = some ([], cs) := by
  unfold fraction?
  split
  · exact absurd rfl (ends '.' rfl).2.1
  · rfl

private theorem exponent?_none (ends : EndsNumber cs) : exponent? cs = some ((false, []), cs) := by
  cases cs with
  | nil => rfl
  | cons c cs => simp [exponent?, (ends c rfl).2.2.1, (ends c rfl).2.2.2]

private theorem significand_fits {ds : List Char} {value : Nat} (fits : Nat.ofDigitChars 10 ds value < UInt64.size) :
    significand value ds = (Nat.ofDigitChars 10 ds value, []) := by
  induction ds generalizing value with
  | nil => rfl
  | cons d ds ih =>
    rw [Nat.ofDigitChars_cons] at fits ⊢
    have here : 10 * value + Text.digitValue d < UInt64.size := Nat.lt_of_le_of_lt (Text.ofDigitChars_ge ds _) fits
    rw [significand, if_pos here]
    exact ih fits

private theorem nearest_le (n : Nat) : Double.nearest n ≤ 2 * n := by
  rcases Nat.eq_zero_or_pos n with rfl | positive
  · decide
  · have place : Nat.pow 2 (n.log2 - 52) ≤ n :=
      Nat.le_trans (Nat.pow_le_pow_right (by decide) (Nat.sub_le ..)) (Nat.log2_self_le (by omega))
    have below := Nat.mul_div_le n (Nat.pow 2 (n.log2 - 52))
    simp only [Double.nearest]
    split_ifs
    · rw [Nat.mul_add]; omega
    · omega

/-- The digits of a number of 64 bits stay in the range of double precision. -/
theorem isOutOfRange_nat {n : Nat} (small : n < UInt64.size) : isOutOfRange (Nat.toDigits 10 n) [] 0 = false := by
  have value : Nat.ofDigitChars 10 (Nat.toDigits 10 n) 0 = n := Nat.ofDigitChars_ten_toDigits
  have front : significand 0 (Nat.toDigits 10 n) = (n, []) := by rw [significand_fits (value.symm ▸ small), value]
  have far : 2 * UInt64.size < Double.limit := by decide +kernel
  have one : Double.nearest 1 = 1 := by decide
  have below : ¬ Double.limit ≤ Double.nearest n := by
    have := nearest_le n
    omega
  simp [isOutOfRange, front, significand, Double.exceededByProduct, one, below]

private theorem head?_toDigits {n : Nat} (positive : 0 < n) : (Nat.toDigits 10 n).head? ≠ some '0' := by
  induction n using Nat.strongRecOn with
  | ind n ih =>
    rw [Nat.toDigits_eq_if (by decide)]
    split
    · next one =>
      have listed : ∀ d < 10, 0 < d → [Nat.digitChar d].head? ≠ some '0' := by decide
      exact listed n one positive
    · have front := ih (n / 10) (by omega) (by omega)
      rw [List.head?_append]
      cases first : (Nat.toDigits 10 (n / 10)).head? with
      | none => exact absurd (List.head?_eq_none_iff.1 first) Nat.toDigits_ne_nil
      | some c => simpa [first] using front

/-- Of a number that is followed by none of its own characters, all digits are read and nothing else. -/
theorem scanNumber_nat {n : Nat} (small : n < UInt64.size) (ends : EndsNumber rest) :
    scanNumber (Nat.toDigits 10 n ++ rest) = some (.nat n, rest) := by
  have digits : ∀ c ∈ Nat.toDigits 10 n, c.isDigit = true := fun c inside =>
    Nat.isDigit_of_mem_toDigits (by omega) (by omega) inside
  have unsigned : scanNumber (Nat.toDigits 10 n ++ rest) = scanUnsigned false (Nat.toDigits 10 n ++ rest) := by
    unfold scanNumber
    split
    · next minus =>
      have first : (Nat.toDigits 10 n).head? = some '-' := by
        have := congrArg List.head? minus
        rwa [List.head?_append, Option.or_of_isSome (by simp)] at this
      exact absurd (digits '-' (List.mem_of_mem_head? first)) (by decide)
    · rfl
  have front : ((Nat.toDigits 10 n).length > 1 && (Nat.toDigits 10 n).head? == some '0') = false := by
    rcases Nat.eq_zero_or_pos n with rfl | positive
    · decide
    · simp [head?_toDigits positive]
  rw [unsigned, scanUnsigned, digits?_append Nat.toDigits_ne_nil digits ends]
  simp only [Option.bind_eq_bind, Option.bind_some, front, Bool.false_eq_true, if_false, fraction?_none ends,
    exponent?_none ends, Option.pure_def, numberOf]
  simp [digitsValue, isOutOfRange_nat small, Nat.ofDigitChars_ten_toDigits, nat]

/-! ## From the text to the tokens -/

private theorem tokens_punctuation (space : isSpace c = false) (mark : punctuation? c = some t) :
    tokens (c :: cs) = t :: tokens cs := by
  rw [tokens, space, if_neg Bool.false_ne_true, mark]

private theorem tokens_scalar (space : isSpace c = false) (mark : punctuation? c = none)
    (scalar : scalar? (c :: cs) = some (t, rest)) : tokens (c :: cs) = t :: tokens rest := by
  rw [tokens, space, if_neg Bool.false_ne_true, mark]
  dsimp only
  split
  · next read =>
    obtain ⟨rfl, rfl⟩ := Prod.mk.inj (Option.some.inj (read.symm.trans scalar))
    rfl
  · next missed => simp [missed] at scalar

@[simp] theorem tokens_openList : tokens ('[' :: cs) = .openList :: tokens cs := tokens_punctuation (by decide) rfl

@[simp] theorem tokens_closeList : tokens (']' :: cs) = .closeList :: tokens cs := tokens_punctuation (by decide) rfl

@[simp] theorem tokens_openRecord : tokens ('\x7b' :: cs) = .openRecord :: tokens cs :=
  tokens_punctuation (by decide) rfl

@[simp] theorem tokens_closeRecord : tokens ('\x7d' :: cs) = .closeRecord :: tokens cs :=
  tokens_punctuation (by decide) rfl

@[simp] theorem tokens_colon : tokens (':' :: cs) = .colon :: tokens cs := tokens_punctuation (by decide) rfl

@[simp] theorem tokens_comma : tokens (',' :: cs) = .comma :: tokens cs := tokens_punctuation (by decide) rfl

/-- A quoted text is one token. -/
theorem tokens_quote (s : String) : tokens ((quote s).toList ++ rest) = .string (some s) :: tokens rest := by
  rw [quote, String.toList_ofList, List.cons_append, List.append_assoc]
  refine tokens_scalar (by decide) rfl ?_
  simp [scalar?, scanString_text]

private theorem scalar?_digit (digit : c.isDigit = true) :
    scalar? (c :: cs) = (scanNumber (c :: cs)).map fun p => (.scalar p.1, p.2) := by
  unfold scalar?
  split
  · next same => exact absurd ((List.cons.inj same).1 ▸ digit) (by decide)
  · next same => exact absurd ((List.cons.inj same).1 ▸ digit) (by decide)
  · next same => exact absurd ((List.cons.inj same).1 ▸ digit) (by decide)
  · next same => exact absurd ((List.cons.inj same).1 ▸ digit) (by decide)
  · rfl

private theorem tokens_nat {n : Nat} (small : n < UInt64.size) (ends : EndsNumber rest) :
    tokens (Nat.toDigits 10 n ++ rest) = .scalar (.nat n) :: tokens rest := by
  have number := scanNumber_nat small ends
  cases front : Nat.toDigits 10 n with
  | nil => exact absurd front Nat.toDigits_ne_nil
  | cons c cs =>
    have digit : c.isDigit = true :=
      Nat.isDigit_of_mem_toDigits (by decide) (by decide) (front ▸ List.mem_cons_self (l := cs))
    have space : isSpace c = false := by
      simp only [isSpace, Bool.or_eq_false_iff, decide_eq_false_iff_not]
      refine ⟨⟨⟨?_, ?_⟩, ?_⟩, ?_⟩ <;> (rintro rfl; exact absurd digit (by decide))
    have mark : punctuation? c = none := by
      unfold punctuation?
      split_ifs <;> first | rfl | (subst c; exact absurd digit (by decide))
    rw [front, List.cons_append] at number
    have scalar : scalar? (c :: (cs ++ rest)) = some (.scalar (.nat n), rest) := by
      rw [scalar?_digit digit, number]
      rfl
    exact tokens_scalar space mark scalar

private theorem endsNumber_cons (plain : c.isDigit = false ∧ c ≠ '.' ∧ c ≠ 'e' ∧ c ≠ 'E') : EndsNumber (c :: cs) := by
  intro d first
  cases first
  exact plain

/-- Whatever follows it, the text is cut into these tokens. -/
def Cuts (text : List Char) (ts : List Token) : Prop :=
  ∀ rest, EndsNumber rest → tokens (text ++ rest) = ts ++ tokens rest

namespace Cuts

variable {text other blanks : List Char} {ts us : List Token}

theorem nil : Cuts [] [] := fun _ _ => rfl

theorem blank (space : ∀ c ∈ blanks, isSpace c = true) (cuts : Cuts text ts) : Cuts (blanks ++ text) ts := by
  intro rest ends
  induction blanks with
  | nil => exact cuts rest ends
  | cons c blanks ih =>
    rw [List.cons_append, List.cons_append, tokens, if_pos (space c (List.mem_cons_self ..))]
    exact ih fun d inside => space d (List.mem_cons_of_mem _ inside)

private theorem blank_after (space : ∀ c ∈ blanks, isSpace c = true) (cuts : Cuts text ts) :
    Cuts (text ++ blanks) ts := by
  intro rest ends
  have after : EndsNumber (blanks ++ rest) := by
    cases blanks with
    | nil => exact ends
    | cons c blanks =>
      have here := space c (List.mem_cons_self ..)
      simp only [isSpace, Bool.or_eq_true, decide_eq_true_eq] at here
      rcases here with ((rfl | rfl) | rfl) | rfl <;> exact endsNumber_cons (by decide)
  have skipped : Cuts (blanks ++ []) [] := nil.blank space
  rw [List.append_nil] at skipped
  rw [List.append_assoc, cuts _ after, skipped rest ends]
  rfl

theorem comma (first : Cuts text ts) (second : Cuts other us) :
    Cuts (text ++ ',' :: other) (ts ++ .comma :: us) := by
  intro rest ends
  rw [List.append_assoc, List.cons_append, first _ (endsNumber_cons (by decide)), tokens_comma, second rest ends]
  simp

private theorem member (key : String) (cuts : Cuts text ts) :
    Cuts ((quote key).toList ++ ':' :: text) (.string (some key) :: .colon :: ts) := by
  intro rest ends
  rw [List.append_assoc, tokens_quote, List.cons_append, tokens_colon, cuts rest ends]
  rfl

theorem list (cuts : Cuts text ts) : Cuts ('[' :: (text ++ [']'])) (.openList :: (ts ++ [.closeList])) := by
  intro rest _
  rw [List.cons_append, List.append_assoc, List.singleton_append, tokens_openList,
    cuts _ (endsNumber_cons (by decide)), tokens_closeList]
  simp

theorem record (cuts : Cuts text ts) :
    Cuts ('\x7b' :: (text ++ ['\x7d'])) (.openRecord :: (ts ++ [.closeRecord])) := by
  intro rest _
  rw [List.cons_append, List.append_assoc, List.singleton_append, tokens_openRecord,
    cuts _ (endsNumber_cons (by decide)), tokens_closeRecord]
  simp

end Cuts

/-! ## Both layouts -/

/-- The members of an object as they are read. -/
def keyed (members : List (String × Json)) : List (Option String × Json) := members.map fun m => (some m.1, m.2)

private theorem compactItems_cuts {items : List Json} (each : ∀ v ∈ items, Cuts (compact v).toList (words v)) :
    Cuts (compactItems items).toList (wordsOfItems items) := by
  induction items with
  | nil => exact .nil
  | cons v vs ih =>
    have first := each v (List.mem_cons_self ..)
    have others := ih fun w inside => each w (List.mem_cons_of_mem _ inside)
    cases vs with
    | nil => exact first
    | cons w vs => simpa [compactItems, wordsOfItems] using first.comma others

private theorem compactMembers_cuts {members : List (String × Json)}
    (each : ∀ m ∈ members, Cuts (compact m.2).toList (words m.2)) :
    Cuts (compactMembers (keyed members)).toList (wordsOfMembers (keyed members)) := by
  induction members with
  | nil => exact .nil
  | cons m ms ih =>
    have first := (each m (List.mem_cons_self ..)).member m.1
    have others := ih fun n inside => each n (List.mem_cons_of_mem _ inside)
    cases ms with
    | nil => simpa [keyed, compactMembers, wordsOfMembers, quoteKey] using first
    | cons n ms => simpa [keyed, compactMembers, wordsOfMembers, quoteKey] using first.comma others

/-- The text of a value on one line is cut into the tokens of the value. -/
theorem compact_cuts (plain : Plain v) : Cuts (compact v).toList (words v) := by
  induction plain with
  | null => exact fun _ _ => tokens_scalar (by decide) rfl rfl
  | bool b =>
    cases b with
    | false => exact fun _ _ => tokens_scalar (by decide) rfl rfl
    | true => exact fun _ _ => tokens_scalar (by decide) rfl rfl
  | @nat n small =>
    have text : (compact (.nat n)).toList = Nat.toDigits 10 n := Nat.toList_repr
    rw [text]
    exact fun _ => tokens_nat small
  | text s => exact fun _ _ => tokens_quote s
  | arr _ ih => simpa [compact, words] using (compactItems_cuts ih).list
  | obj _ ih => simpa [obj, keyed, compact, words] using (compactMembers_cuts ih).record

private theorem isSpace_of_mem_newLine (level : Nat) : ∀ c ∈ (newLine level).toList, isSpace c = true := by
  intro c inside
  rw [newLine, String.toList_ofList] at inside
  rcases List.mem_cons.1 inside with rfl | indent
  · decide
  · rw [(List.mem_replicate.1 indent).2]
    decide

private theorem prettyItems_cuts {level : Nat} {items : List Json}
    (each : ∀ v ∈ items, Cuts (pretty level v).toList (words v)) :
    Cuts (prettyItems level items).toList (wordsOfItems items) := by
  induction items with
  | nil => exact .nil
  | cons v vs ih =>
    have first := (each v (List.mem_cons_self ..)).blank (isSpace_of_mem_newLine level)
    have others := ih fun w inside => each w (List.mem_cons_of_mem _ inside)
    cases vs with
    | nil => simpa [prettyItems, wordsOfItems] using first
    | cons w vs => simpa [prettyItems, wordsOfItems] using first.comma others

private theorem prettyMembers_cuts {level : Nat} {members : List (String × Json)}
    (each : ∀ m ∈ members, Cuts (pretty level m.2).toList (words m.2)) :
    Cuts (prettyMembers level (keyed members)).toList (wordsOfMembers (keyed members)) := by
  induction members with
  | nil => exact .nil
  | cons m ms ih =>
    have gap : ∀ c ∈ [' '], isSpace c = true := by simp [isSpace]
    have value : Cuts ([' '] ++ (pretty level m.2).toList) (words m.2) := (each m (List.mem_cons_self ..)).blank gap
    have first := (value.member m.1).blank (isSpace_of_mem_newLine level)
    have others := ih fun n inside => each n (List.mem_cons_of_mem _ inside)
    cases ms with
    | nil => simpa [keyed, prettyMembers, wordsOfMembers, quoteKey] using first
    | cons n ms => simpa [keyed, prettyMembers, wordsOfMembers, quoteKey] using first.comma others

/-- So is the indented text. -/
theorem pretty_cuts (plain : Plain v) (level : Nat) : Cuts (pretty level v).toList (words v) := by
  induction plain generalizing level with
  | @arr items each ih =>
    cases items with
    | nil => simpa [pretty, words, wordsOfItems] using Cuts.nil.list
    | cons w ws =>
      have items := (prettyItems_cuts fun v inside => ih v inside (level + 1)).blank_after
        (isSpace_of_mem_newLine level)
      simpa [pretty, words] using items.list
  | @obj members each ih =>
    cases members with
    | nil => simpa [obj, pretty, words, wordsOfMembers] using Cuts.nil.record
    | cons m ms =>
      have members := (prettyMembers_cuts fun n inside => ih n inside (level + 1)).blank_after
        (isSpace_of_mem_newLine level)
      simpa [obj, keyed, pretty, words] using members.record
  | null => exact compact_cuts .null
  | bool b => exact compact_cuts (.bool b)
  | nat small => exact compact_cuts (.nat small)
  | text s => exact compact_cuts (.text s)

/-! ## From the tokens to the value -/

/-- No value begins with a closing bracket. -/
theorem words_ne_closeList (plain : Plain v) {ts us : List Token} : words v ++ ts ≠ .closeList :: us := by
  cases plain <;> simp [words, Json.nat, obj]

/-- What putting the tokens of a value together gives, wherever the value stands. -/
def PutsTogether (v : Json) : Prop := ∀ stack ts, readValue stack (words v ++ ts) = readAfter v stack ts

private theorem readValue_wordsOfItems {items before : List Json} {stack : List Frame} {ts : List Token}
    (some_items : items ≠ []) (each : ∀ v ∈ items, PutsTogether v) :
    readValue (.list before :: stack) (wordsOfItems items ++ .closeList :: ts) =
      readAfter (arr (before.reverse ++ items)) stack ts := by
  induction items generalizing before with
  | nil => exact absurd rfl some_items
  | cons v vs ih =>
    have first := each v (List.mem_cons_self ..)
    cases vs with
    | nil =>
      rw [wordsOfItems, first, readAfter, List.reverse_cons]
    | cons w vs =>
      have others : readValue (.list (v :: before) :: stack) (wordsOfItems (w :: vs) ++ .closeList :: ts) =
          readAfter (arr ((v :: before).reverse ++ w :: vs)) stack ts :=
        ih nofun fun w inside => each w (List.mem_cons_of_mem _ inside)
      rw [wordsOfItems, List.append_assoc, first, List.cons_append, readAfter, others]
      · simp
      · nofun

/-- Behind the first member, reading goes through the other members and closes the object. -/
theorem wordsOfMembers_cons (key : Option String) (v : Json) {members : List (Option String × Json)}
    (each : ∀ m ∈ members, PutsTogether m.2) (stack : List Frame) (ts : List Token) :
    ∃ us, wordsOfMembers ((key, v) :: members) ++ .closeRecord :: ts = .string key :: .colon :: (words v ++ us) ∧
      ∀ before, readAfter v (.record before key :: stack) us =
        readAfter (.record (before.reverse ++ (key, v) :: members) true) stack ts := by
  induction members generalizing key v with
  | nil =>
    refine ⟨.closeRecord :: ts, by simp [wordsOfMembers], fun before => ?_⟩
    rw [readAfter, List.reverse_cons]
  | cons m ms ih =>
    obtain ⟨next, w⟩ := m
    have second : PutsTogether w := each (next, w) (List.mem_cons_self ..)
    obtain ⟨us, same, after⟩ := ih next w fun n inside => each n (List.mem_cons_of_mem _ inside)
    refine ⟨.comma :: .string next :: .colon :: (words w ++ us), ?_, fun before => ?_⟩
    · rw [← same]
      simp [wordsOfMembers]
    · rw [readAfter, second, after]
      simp

/-- The tokens of a value are put together to the value. -/
theorem readValue_words (plain : Plain v) : PutsTogether v := by
  intro stack ts
  induction plain generalizing stack ts with
  | @arr items each ih =>
    cases items with
    | nil => simp [words, wordsOfItems, readValue]
    | cons w ws =>
      have open_list : words (.arr (w :: ws)) ++ ts = .openList :: (wordsOfItems (w :: ws) ++ .closeList :: ts) := by
        simp [words]
      have item : ∀ us, wordsOfItems (w :: ws) ++ .closeList :: ts ≠ .closeList :: us := by
        intro us
        have plain := each w (List.mem_cons_self ..)
        cases ws with
        | nil => exact words_ne_closeList plain
        | cons x xs =>
          rw [wordsOfItems, List.append_assoc]
          · exact words_ne_closeList plain
          · nofun
      rw [open_list, readValue, readValue_wordsOfItems (by simp) ih]
      · rfl
      · exact item
  | @obj members each ih =>
    cases members with
    | nil => simp [words, wordsOfMembers, readValue, obj]
    | cons m ms =>
      have others : ∀ n ∈ ms.map fun m => (some m.1, m.2), PutsTogether n.2 := by
        intro n inside
        obtain ⟨k, listed, rfl⟩ := List.mem_map.1 inside
        exact ih k (List.mem_cons_of_mem _ listed)
      obtain ⟨us, same, after⟩ := wordsOfMembers_cons (some m.1) m.2 others stack ts
      have first : PutsTogether m.2 := ih m (List.mem_cons_self ..)
      have open_record : words (.obj (m :: ms)) ++ ts =
          .openRecord :: .string (some m.1) :: .colon :: (words m.2 ++ us) := by
        rw [← same]
        simp [words, obj]
      rw [open_record, readValue, first, after]
      rfl
  | text s => rfl
  | _ => rfl

/-- A text that is cut into the tokens of a value is read as the value, and nothing is left over. -/
theorem readFront_of_cuts (plain : Plain v) {text : String} (cuts : Cuts text.toList (words v)) :
    readFront text = (v, true) := by
  have cut := cuts [] nofun
  have together := readValue_words plain [] (tokens [])
  rw [List.append_nil] at cut
  rw [readFront, cut, together, readAfter, tokens]
  rfl

/-- A value that is written on one line is read back, and nothing is left. -/
theorem readFront_compact (plain : Plain v) : readFront (compact v) = (v, true) :=
  readFront_of_cuts plain (compact_cuts plain)

/-- A value that is written on several lines is read back, and nothing is left. -/
theorem readFront_pretty (plain : Plain v) (level : Nat) : readFront (pretty level v) = (v, true) :=
  readFront_of_cuts plain (pretty_cuts plain level)

end PrinterWiring.Json

namespace PrinterWiring

theorem decodeText_of_readFront {α : Type} (d : Decoder α) {text : String} {v : Json}
    (read : Json.readFront text = (v, true)) : decodeText d text = d v := by
  simp only [decodeText, read]
  cases d v <;> rfl

end PrinterWiring
