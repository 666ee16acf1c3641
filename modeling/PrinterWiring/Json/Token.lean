import PrinterWiring.Json.Value
import PrinterWiring.Text.Double
import PrinterWiring.Text.Numeral

/-!
# JSON tokens

A text is cut into punctuation, strings and other scalars. Cutting stops at the first place that is no token, which
is marked by `Token.bad`; every scalar takes at least one character (`scalar?_shorter`).
-/

namespace PrinterWiring.Json

/-- Punctuation, a scalar, or the place where the text stops being JSON. -/
inductive Token where
  | openList | closeList | openRecord | closeRecord | colon | comma
  /-- A string, which may be a key. It is `none` with half a surrogate pair in it. -/
  | string (s : Option String)
  /-- A scalar of another kind. -/
  | scalar (v : Json)
  | bad

/-- The blanks between tokens. -/
def isSpace (c : Char) : Bool := c = ' ' || c = '\n' || c = '\r' || c = '\t'

/-- The punctuation token that a character is. -/
def punctuation? (c : Char) : Option Token :=
  if c = '[' then some .openList
  else if c = ']' then some .closeList
  else if c = '\x7b' then some .openRecord
  else if c = '\x7d' then some .closeRecord
  else if c = ':' then some .colon
  else if c = ',' then some .comma
  else none

/-! ## Strings -/

/-- The value of a hexadecimal digit. -/
def hexValue? (c : Char) : Option Nat :=
  if c.isDigit then some (c.toNat - 48)
  else if 'a' ≤ c ∧ c ≤ 'f' then some (c.toNat - 87)
  else if 'A' ≤ c ∧ c ≤ 'F' then some (c.toNat - 55)
  else none

/-- The UTF-16 unit of four hexadecimal digits. -/
def unit? (a b c d : Char) : Option Nat := do
  let a ← hexValue? a
  let b ← hexValue? b
  let c ← hexValue? c
  let d ← hexValue? d
  return 4096 * a + 256 * b + 16 * c + d

/-- Whether a unit opens a surrogate pair. -/
def isHigh (u : Nat) : Bool := 0xD800 ≤ u && u < 0xDC00

/-- Whether a unit closes a surrogate pair. -/
def isLow (u : Nat) : Bool := 0xDC00 ≤ u && u < 0xE000

/-- The character of a surrogate pair. -/
def joinPair (high low : Nat) : Char := .ofNat (0x10000 + 1024 * (high - 0xD800) + (low - 0xDC00))

/-- The character that a letter means after a backslash. -/
def escaped? (c : Char) : Option Char :=
  if c = '"' ∨ c = '\\' ∨ c = '/' then some c
  else if c = 'b' then some (.ofNat 8)
  else if c = 'f' then some (.ofNat 12)
  else if c = 'n' then some '\n'
  else if c = 'r' then some '\r'
  else if c = 't' then some '\t'
  else none

/-- Reads a string after its opening quote. `read` holds the characters so far, the last first;
`high` is a surrogate that still waits for its other half, and `sound` says that none was left
alone. -/
def scanString (read : List Char) (high : Option Nat) (sound : Bool) :
    List Char → Option (Option String × List Char)
  | [] => none
  | '"' :: cs => some (if sound && high.isNone then some (.ofList read.reverse) else none, cs)
  | '\\' :: 'u' :: a :: b :: c :: d :: cs =>
    match unit? a b c d with
    | none => none
    | some u =>
      if isHigh u then scanString read (some u) (sound && high.isNone) cs
      else if isLow u then
        match high with
        | some h => scanString (joinPair h u :: read) none sound cs
        | none => scanString read none false cs
      else scanString (.ofNat u :: read) none (sound && high.isNone) cs
  | '\\' :: c :: cs =>
    match escaped? c with
    | none => none
    | some e => scanString (e :: read) none (sound && high.isNone) cs
  | c :: cs => if c.toNat < 32 || c = '\\' then none else scanString (c :: read) none (sound && high.isNone) cs

private theorem scanString_shorter {read : List Char} {high : Option Nat} {sound : Bool} {cs rest : List Char}
    {s : Option String} (h : scanString read high sound cs = some (s, rest)) : rest.length < cs.length := by
  fun_induction scanString read high sound cs <;> simp_all <;> omega

/-! ## Numbers -/

/-- The value of a run of digits. -/
def digitsValue (cs : List Char) : Nat := Nat.ofDigitChars 10 cs 0

/-- The digits at the front, if there are any, and the rest. -/
def digits? (cs : List Char) : Option (List Char × List Char) :=
  if (cs.takeWhile Char.isDigit).isEmpty then none else some (cs.takeWhile Char.isDigit, cs.dropWhile Char.isDigit)

/-- The digits after a decimal point; none, if there is no point. -/
def fraction? : List Char → Option (List Char × List Char)
  | '.' :: cs => digits? cs
  | cs => some ([], cs)

/-- The sign and digits of an exponent; no digits, if there is none. -/
def exponent? (cs : List Char) : Option ((Bool × List Char) × List Char) :=
  match cs with
  | c :: cs =>
    if c = 'e' ∨ c = 'E' then
      match cs with
      | '-' :: cs => (digits? cs).map fun p => ((true, p.1), p.2)
      | '+' :: cs => (digits? cs).map fun p => ((false, p.1), p.2)
      | cs => (digits? cs).map fun p => ((false, p.1), p.2)
    else some ((false, []), c :: cs)
  | [] => some ((false, []), [])

/-- Goes on with the digits while the value fits into 64 bits. Answers the value and the digits left over. -/
def significand (value : Nat) : List Char → Nat × List Char
  | [] => (value, [])
  | c :: cs =>
    if 10 * value + Text.digitValue c < UInt64.size then significand (10 * value + Text.digitValue c) cs
    else (value, c :: cs)

/-- Whether a number is out of the range of double precision. Its digits count as far as they fit into 64 bits,
those of the fraction also behind a whole part that was cut off. -/
def isOutOfRange (whole fraction : List Char) (exponent : Int) : Bool :=
  let (front, wholeLeft) := significand 0 whole
  let (value, fractionLeft) := significand front fraction
  Double.exceededByProduct value (exponent + wholeLeft.length + fractionLeft.length - fraction.length)

/-- The number with the given parts. -/
def numberOf (negative : Bool) (whole fraction : List Char) (negativeExponent : Bool) (exponent : List Char)
    (spelling : List Char) : Json :=
  let magnitude : Int := digitsValue exponent
  if isOutOfRange whole fraction (if negativeExponent then -magnitude else magnitude) then .unreadable
  else if fraction.isEmpty && exponent.isEmpty && !(negative && digitsValue whole == 0) then
    .int (if negative then -(digitsValue whole : Int) else digitsValue whole)
  else .decimal (.ofList spelling)

/-- Reads a number without its sign. A zero at the front stands alone. -/
def scanUnsigned (negative : Bool) (cs : List Char) : Option (Json × List Char) := do
  let (whole, cs₁) ← digits? cs
  if whole.length > 1 && whole.head? == some '0' then none
  let (fraction, cs₂) ← fraction? cs₁
  let ((negativeExponent, exponent), cs₃) ← exponent? cs₂
  let spelling := (if negative then ['-'] else []) ++ cs.take (cs.length - cs₃.length)
  return (numberOf negative whole fraction negativeExponent exponent spelling, cs₃)

/-- Reads a number. -/
def scanNumber : List Char → Option (Json × List Char)
  | '-' :: cs => scanUnsigned true cs
  | cs => scanUnsigned false cs

private theorem digits?_shorter {cs ds rest : List Char} (h : digits? cs = some (ds, rest)) :
    rest.length < cs.length := by
  unfold digits? at h
  split at h
  · simp at h
  · rename_i some_digits
    simp only [Option.some.injEq, Prod.mk.injEq] at h
    have parts := congrArg List.length (List.takeWhile_append_dropWhile (p := Char.isDigit) (l := cs))
    have := List.length_pos_iff.2 (mt List.isEmpty_iff.2 some_digits)
    simp only [List.length_append, h.2] at parts
    omega

private theorem fraction?_le {cs ds rest : List Char} (h : fraction? cs = some (ds, rest)) :
    rest.length ≤ cs.length := by
  unfold fraction? at h
  split at h
  · have := digits?_shorter h
    simp only [List.length_cons]
    omega
  · simp_all

private theorem exponent?_le {cs rest : List Char} {e : Bool × List Char} (h : exponent? cs = some (e, rest)) :
    rest.length ≤ cs.length := by
  unfold exponent? at h
  split at h
  · split at h
    · split at h
      all_goals
        obtain ⟨p, read, same⟩ := Option.map_eq_some_iff.1 h
        have := digits?_shorter read
        simp only [Prod.mk.injEq] at same
        simp only [List.length_cons, ← same.2]
        omega
    · simp_all
  · simp_all

private theorem scanUnsigned_shorter {negative : Bool} {cs rest : List Char} {v : Json}
    (h : scanUnsigned negative cs = some (v, rest)) : rest.length < cs.length := by
  simp only [scanUnsigned, Option.bind_eq_bind, Option.bind_eq_some_iff, Option.pure_def] at h
  obtain ⟨⟨whole, cs₁⟩, h₁, h⟩ := h
  split at h
  · simp at h
  · simp only [Option.bind_eq_some_iff, Option.some.injEq, Prod.mk.injEq] at h
    obtain ⟨⟨fraction, cs₂⟩, h₂, ⟨e, cs₃⟩, h₃, _, rfl⟩ := h
    exact Nat.lt_of_le_of_lt (Nat.le_trans (exponent?_le h₃) (fraction?_le h₂)) (digits?_shorter h₁)

private theorem scanNumber_shorter {cs rest : List Char} {v : Json} (h : scanNumber cs = some (v, rest)) :
    rest.length < cs.length := by
  unfold scanNumber at h
  split at h
  · have := scanUnsigned_shorter h
    simp only [List.length_cons]
    omega
  · exact scanUnsigned_shorter h

/-! ## Scalars and the cutting of a text -/

/-- Reads a scalar. -/
def scalar? : List Char → Option (Token × List Char)
  | '"' :: cs => (scanString [] none true cs).map fun p => (.string p.1, p.2)
  | 't' :: 'r' :: 'u' :: 'e' :: cs => some (.scalar (.bool true), cs)
  | 'f' :: 'a' :: 'l' :: 's' :: 'e' :: cs => some (.scalar (.bool false), cs)
  | 'n' :: 'u' :: 'l' :: 'l' :: cs => some (.scalar .null, cs)
  | cs => (scanNumber cs).map fun p => (.scalar p.1, p.2)

theorem scalar?_shorter {cs rest : List Char} {t : Token} (h : scalar? cs = some (t, rest)) :
    rest.length < cs.length := by
  unfold scalar? at h
  split at h
  case h_1 =>
    obtain ⟨p, read, same⟩ := Option.map_eq_some_iff.1 h
    have := scanString_shorter read
    simp only [Prod.mk.injEq] at same
    simp only [List.length_cons, ← same.2]
    omega
  case h_5 =>
    obtain ⟨p, read, same⟩ := Option.map_eq_some_iff.1 h
    simp only [Prod.mk.injEq] at same
    exact same.2 ▸ scanNumber_shorter read
  all_goals
    simp_all
    omega

/-- Cuts a text into tokens. -/
def tokens (cs : List Char) : List Token :=
  match cs with
  | [] => []
  | c :: rest =>
    if isSpace c then tokens rest
    else
      match punctuation? c with
      | some t => t :: tokens rest
      | none =>
        match _read : scalar? (c :: rest) with
        | some (t, rest') => t :: tokens rest'
        | none => [.bad]
termination_by cs.length
decreasing_by
  · simp
  · simp
  · exact scalar?_shorter _read

end PrinterWiring.Json
