import PrinterWiring.Json.Token

/-!
# TOML tokens

A text is cut into punctuation, line ends and runs of words. A word is a bare one, as in keys, numbers
and dates, or a text between quotes. A quote opens a text only at the beginning of a word or behind a dot. Blanks only
separate; but the brackets of a list of tables have to
touch, so that a bracket remembers whether a blank stands in front of it. Each word takes at least one
character (`word?_shorter`).
-/

namespace PrinterWiring.Toml

/-- A part of a key, or a scalar value. -/
inductive Word where
  /-- What stands between punctuation and blanks. -/
  | bare (cs : List Char)
  /-- A text on one line. -/
  | quoted (s : String)
  /-- A text that may have several lines. It cannot be a key. -/
  | lines (s : String)

/-- A token. -/
inductive Token where
  | equals | comma | openTable | closeTable | newline
  | openList (spaced : Bool)
  | closeList (spaced : Bool)
  /-- Words with nothing but blanks between them. -/
  | words (ws : List Word)
  /-- The place where the text stops being TOML. -/
  | bad

/-- Whether a character may stand in texts and comments as it is. -/
def isPlain (c : Char) : Bool := c = '\t' || (32 ≤ c.toNat && c.toNat ≠ 127)

/-- Whether a character may stand in a bare word. -/
def isBare (c : Char) : Bool := !"=,[]\x7b\x7d \t#\r\n".toList.contains c

/-- The single quote. -/
def apostrophe : Char := .ofNat 39

/-- Whether a character opens a text. -/
def isQuote (c : Char) : Bool := c = '"' || c = apostrophe

/-! ## Texts between quotes -/

/-- The character with a code point, if there is one. -/
def character? (n : Nat) : Option Char :=
  if n < 0xD800 ∨ (0xE000 ≤ n ∧ n < 0x110000) then some (.ofNat n) else none

/-- The character with a code point in hexadecimal digits. -/
def hexCharacter? (digits : List Char) : Option Char := do
  character? (← digits.foldlM (fun n c => (Json.hexValue? c).map (16 * n + ·)) 0)

/-- Reads what follows a backslash. -/
def escape? : List Char → Option (Char × List Char)
  | 'u' :: a :: b :: c :: d :: cs => (hexCharacter? [a, b, c, d]).map (·, cs)
  | 'U' :: a :: b :: c :: d :: e :: f :: g :: h :: cs => (hexCharacter? [a, b, c, d, e, f, g, h]).map (·, cs)
  | 'x' :: a :: b :: cs => (hexCharacter? [a, b]).map (·, cs)
  | 'e' :: cs => some (.ofNat 27, cs)
  | '/' :: _ => none
  | c :: cs => (Json.escaped? c).map (·, cs)
  | [] => none

private theorem escape?_shorter {cs rest : List Char} {c : Char} (h : escape? cs = some (c, rest)) :
    rest.length < cs.length := by
  unfold escape? at h
  split at h
  case h_4 | h_5 | h_7 => simp_all
  all_goals
    obtain ⟨_, _, same⟩ := Option.map_eq_some_iff.1 h
    simp only [Prod.mk.injEq] at same
    simp only [List.length_cons, same.2]
    omega

/-- What a backslash at the end of a line takes away: the blanks up to the end of the line, and then all
blanks and line ends up to the next character. -/
inductive Folding where
  | none
  | toLineEnd
  | beyond
deriving DecidableEq

/-- Reads a text after its opening quote or quotes. `read` holds the characters so far, the last first. Only
between double quotes a backslash has a meaning. -/
def scanQuoted (delimiter : Char) (multiline : Bool) (fold : Folding) (read : List Char) (cs : List Char) :
    Option (String × List Char) :=
  match cs with
  | [] => none
  | c :: cs =>
    if c = '\r' && multiline && cs.head? = some '\n' then
      scanQuoted delimiter multiline fold (if fold = .none then c :: read else read) cs
    else if fold = .toLineEnd then
      if c = '\n' then scanQuoted delimiter multiline .beyond read cs
      else if c = ' ' || c = '\t' then scanQuoted delimiter multiline .toLineEnd read cs
      else none
    else if fold = .beyond && (c = '\n' || c = ' ' || c = '\t') then scanQuoted delimiter multiline .beyond read cs
    else if c = delimiter then
      if !multiline then some (.ofList read.reverse, cs)
      else if cs.take 4 = List.replicate 4 delimiter then
        some (.ofList (delimiter :: delimiter :: read).reverse, cs.drop 4)
      else if cs.take 3 = List.replicate 3 delimiter then some (.ofList (delimiter :: read).reverse, cs.drop 3)
      else if cs.take 2 = List.replicate 2 delimiter then some (.ofList read.reverse, cs.drop 2)
      else scanQuoted delimiter multiline .none (c :: read) cs
    else if c = '\\' && delimiter = '"' then
      match _read : escape? cs with
      | some (e, rest) => scanQuoted delimiter multiline .none (e :: read) rest
      | none => if multiline then scanQuoted delimiter multiline .toLineEnd read cs else none
    else if isPlain c || (c = '\n' && multiline) then scanQuoted delimiter multiline .none (c :: read) cs
    else none
termination_by cs.length
decreasing_by
  all_goals grind [→ escape?_shorter]

private theorem scanQuoted_shorter {delimiter : Char} {multiline : Bool} {fold : Folding} {read cs rest : List Char}
    {s : String} (h : scanQuoted delimiter multiline fold read cs = some (s, rest)) : rest.length < cs.length := by
  fun_induction scanQuoted delimiter multiline fold read cs <;> grind [→ escape?_shorter]

/-! ## Words -/

/-- Takes away a line end at the front. -/
def dropLineEnd : List Char → List Char
  | '\n' :: cs => cs
  | '\r' :: '\n' :: cs => cs
  | cs => cs

private theorem dropLineEnd_le (cs : List Char) : (dropLineEnd cs).length ≤ cs.length := by
  unfold dropLineEnd
  split <;> simp
  omega

/-- Whether a word is the date of a date and a time, which a single blank may separate. -/
def isDay (cs : List Char) : Bool :=
  match cs with
  | [a, b, c, d, '-', e, f, '-', g, h] => [a, b, c, d, e, f, g, h].all Char.isDigit
  | _ => false

/-- The bare word at the front and the rest. A quote behind a dot is not in it. -/
def spanBare (behindDot : Bool) : List Char → List Char × List Char
  | [] => ([], [])
  | c :: cs =>
    if isBare c && !(behindDot && isQuote c) then
      let (word, rest) := spanBare (c = '.') cs
      (c :: word, rest)
    else ([], c :: cs)

private theorem spanBare_append (behindDot : Bool) (cs : List Char) :
    (spanBare behindDot cs).1 ++ (spanBare behindDot cs).2 = cs := by
  fun_induction spanBare behindDot cs <;> simp_all

private theorem length_spanBare_le (behindDot : Bool) (cs : List Char) :
    (spanBare behindDot cs).2.length ≤ cs.length := by
  have parts := congrArg List.length (spanBare_append behindDot cs)
  simp only [List.length_append] at parts
  omega

/-- Reads a bare word. -/
def bare? (cs : List Char) : Option (Word × List Char) :=
  match spanBare false cs with
  | ([], _) => none
  | (word, ' ' :: c :: rest) =>
    if isDay word && c.isDigit then
      some (.bare (word ++ ' ' :: (spanBare false (c :: rest)).1), (spanBare false (c :: rest)).2)
    else some (.bare word, ' ' :: c :: rest)
  | (word, rest) => some (.bare word, rest)

private theorem length_dropWhile_le (p : Char → Bool) (cs : List Char) : (cs.dropWhile p).length ≤ cs.length :=
  (List.dropWhile_sublist p).length_le

private theorem bare?_shorter {cs rest : List Char} {w : Word} (h : bare? cs = some (w, rest)) :
    rest.length < cs.length := by
  have parts := congrArg List.length (spanBare_append false cs)
  simp only [List.length_append] at parts
  unfold bare? at h
  split at h
  · simp at h
  · rename_i word c after some_word spanned
    have shorter := length_spanBare_le false (c :: after)
    have := List.length_pos_iff.2 some_word
    simp only [spanned, List.length_cons] at parts shorter
    split at h <;> simp only [Option.some.injEq, Prod.mk.injEq] at h <;> simp only [← h.2, List.length_cons] <;> omega
  · rename_i word after some_word _ spanned
    have := List.length_pos_iff.2 some_word
    simp only [spanned] at parts
    simp only [Option.some.injEq, Prod.mk.injEq] at h
    rw [← h.2]
    omega

/-- Reads a text between quotes, behind its first quote. -/
def quoted? (delimiter : Char) (cs : List Char) : Option (Word × List Char) :=
  if cs.take 2 = [delimiter, delimiter] then
    (scanQuoted delimiter true .none [] (dropLineEnd (cs.drop 2))).map fun p => (.lines p.1, p.2)
  else (scanQuoted delimiter false .none [] cs).map fun p => (.quoted p.1, p.2)

private theorem quoted?_shorter {delimiter : Char} {cs rest : List Char} {w : Word}
    (h : quoted? delimiter cs = some (w, rest)) : rest.length < cs.length := by
  unfold quoted? at h
  split at h
  all_goals
    obtain ⟨⟨s, rest'⟩, read, same⟩ := Option.map_eq_some_iff.1 h
    have shorter := scanQuoted_shorter read
    simp only [Prod.mk.injEq] at same
    obtain ⟨_, rfl⟩ := same
  · have := dropLineEnd_le (cs.drop 2)
    simp only [List.length_drop] at this
    omega
  · exact shorter

/-- Reads a word. -/
def word? : List Char → Option (Word × List Char)
  | [] => none
  | c :: cs => if isQuote c then quoted? c cs else bare? (c :: cs)

/-- Reading a word takes at least one character. -/
theorem word?_shorter {cs rest : List Char} {w : Word} (h : word? cs = some (w, rest)) : rest.length < cs.length := by
  unfold word? at h
  split at h
  · simp at h
  · split at h
    · exact Nat.lt_succ_of_lt (quoted?_shorter h)
    · exact bare?_shorter h

/-! ## The cutting of a text -/

/-- The punctuation that a character is. -/
def punctuation? (spaced : Bool) (c : Char) : Option Token :=
  if c = '=' then some .equals
  else if c = ',' then some .comma
  else if c = '[' then some (.openList spaced)
  else if c = ']' then some (.closeList spaced)
  else if c = '\x7b' then some .openTable
  else if c = '\x7d' then some .closeTable
  else if c = '\n' then some .newline
  else none

/-- Puts a word in front of tokens. -/
def consWord (w : Word) : List Token → List Token
  | .words ws :: ts => .words (w :: ws) :: ts
  | ts => .words [w] :: ts

/-- Whether a comment holds nothing that must not stand in one. Its line may end in two characters. -/
def isComment (cs : List Char) : Bool :=
  let line := cs.takeWhile (· ≠ '\n')
  if line.getLast? = some '\r' && line.length < cs.length then line.dropLast.all isPlain else line.all isPlain

/-- Cuts a text into tokens; `spaced` says that a blank stands in front of it. -/
def tokens (spaced : Bool) (cs : List Char) : List Token :=
  match cs with
  | [] => []
  | c :: rest =>
    if c = ' ' || c = '\t' || (c = '\r' && rest.head? = some '\n') then tokens true rest
    else if c = '#' then if isComment rest then tokens true (rest.dropWhile (· ≠ '\n')) else [.bad]
    else
      match punctuation? spaced c with
      | some t => t :: tokens false rest
      | none =>
        match _read : word? (c :: rest) with
        | some (w, rest') => consWord w (tokens false rest')
        | none => [.bad]
termination_by cs.length
decreasing_by
  · simp
  · exact Nat.lt_succ_of_le (length_dropWhile_le _ rest)
  · simp
  · exact word?_shorter _read

/-- The tokens of a document. A byte order mark at its front is passed over. -/
def documentTokens (s : String) : List Token :=
  match s.toList with
  | [] => []
  | c :: cs => if c.toNat = 0xFEFF then tokens false cs else tokens false (c :: cs)

end PrinterWiring.Toml
