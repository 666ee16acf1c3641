import PrinterWiring.Json.Token
import PrinterWiring.Text.Double
import PrinterWiring.Text.Split
import PrinterWiring.Toml.Value

/-!
# Numbers, truth values and dates in TOML

Which bare words are values. Digits may be grouped with underscores; a decimal number has no leading
zeros; a date has to be one of the calendar. Numbers without a value are recognised too.
-/

namespace PrinterWiring.Toml

/-! ## Numbers -/

/-- Whether a text is digits, with single underscores between them. -/
def areDigits (isDigit : Char → Bool) (cs : List Char) : Bool :=
  (Text.pieces '_' cs).all fun group => !group.isEmpty && group.all isDigit

/-- A word without its sign, and whether it is negative. -/
def splitSign : List Char → Bool × List Char
  | '-' :: cs => (true, cs)
  | '+' :: cs => (false, cs)
  | cs => (false, cs)

/-- Whether a word is decimal digits without leading zeros. -/
def isDecimal (cs : List Char) : Bool := areDigits Char.isDigit cs && (cs.length = 1 || cs.head? ≠ some '0')

/-- The value of digits. -/
def digitsValue (base : Nat) (cs : List Char) : Nat :=
  cs.foldl (fun n c => if c = '_' then n else base * n + (Json.hexValue? c).getD 0) 0

/-- The number of values of 128 bits. -/
def wordSize : Nat := UInt64.size * UInt64.size

/-- A number, which may have no value. -/
def number (hasValue : Bool) : Toml := if hasValue then .scalar else .unreadable

/-- Whether a word that begins with digits is taken for an integer because of an underscore behind them, although
other characters follow. Those next to an underscore have to be digits, of any base. -/
def isMixed (cs : List Char) : Bool :=
  let isAnyDigit (c : Char) : Bool := (Json.hexValue? c).isSome
  match Text.pieces '_' cs with
  | first :: second :: rest =>
    isDecimal first && first.head? ≠ some '0' && (second :: rest).all (·.head?.any isAnyDigit)
      && (second :: rest).dropLast.all (·.getLast?.any isAnyDigit) && !cs.any fun c => ".eE".toList.contains c
  | _ => false

/-- The integer that a word is. It has a value if it fits into 128 bits, signed or unsigned. -/
def integer? (cs : List Char) : Option Toml :=
  let based (base : Nat) (isDigit : Char → Bool) (digits : List Char) : Option Toml :=
    if digits.isEmpty then some .unreadable
    else if areDigits isDigit digits then some (number (digitsValue base digits < wordSize))
    else none
  match cs with
  | '0' :: 'x' :: digits => based 16 (fun c => (Json.hexValue? c).isSome) digits
  | '0' :: 'o' :: digits => based 8 (fun c => '0' ≤ c && c ≤ '7') digits
  | '0' :: 'b' :: digits => based 2 (fun c => c = '0' || c = '1') digits
  | _ =>
    let (negative, digits) := splitSign cs
    let value := digitsValue 10 digits
    if isDecimal digits then some (number (if negative then value ≤ wordSize / 2 else value < wordSize))
    else if isMixed digits then some .unreadable
    else none

/-- The number with a fraction or an exponent that a word is. It has a value within double precision. -/
def float? (cs : List Char) : Option Toml :=
  let (_, unsigned) := splitSign cs
  if unsigned = "inf".toList ∨ unsigned = "nan".toList then some .scalar
  else
    let mantissa := unsigned.takeWhile fun c => c ≠ 'e' && c ≠ 'E'
    let exponent := (unsigned.drop mantissa.length).drop 1
    let hasExponent := mantissa.length < unsigned.length
    let (negative, power) := splitSign exponent
    let whole := mantissa.takeWhile (· ≠ '.')
    let fraction := (mantissa.drop whole.length).drop 1
    let hasFraction := whole.length < mantissa.length
    let digits (part : List Char) : List Char := part.filter (· ≠ '_')
    let magnitude : Int := digitsValue 10 power
    let shift : Int := (if negative then -magnitude else magnitude) - (digits fraction).length
    if isDecimal whole && (hasFraction || hasExponent) && (!hasFraction || areDigits Char.isDigit fraction)
        && (!hasExponent || areDigits Char.isDigit power) then
      some (number !(Double.exceeded (digitsValue 10 (digits whole ++ digits fraction)) shift))
    else none

/-! ## Dates -/

/-- The number that two digits are, if it is at most `most`. -/
def twoDigits? (most : Nat) (a b : Char) : Option Nat :=
  let n := digitsValue 10 [a, b]
  if a.isDigit && b.isDigit && n ≤ most then some n else none

/-- The number of days of a month. -/
def daysOf (year month : Nat) : Nat :=
  if month = 2 then if year % 4 = 0 ∧ (year % 100 ≠ 0 ∨ year % 400 = 0) then 29 else 28
  else if month ∈ [4, 6, 9, 11] then 30
  else 31

/-- Reads a day of the calendar. -/
def day? : List Char → Option (List Char)
  | a :: b :: c :: d :: '-' :: e :: f :: '-' :: g :: h :: cs => do
    let century ← twoDigits? 99 a b
    let year ← twoDigits? 99 c d
    let month ← twoDigits? 12 e f
    let day ← twoDigits? 31 g h
    if 1 ≤ month ∧ 1 ≤ day ∧ day ≤ daysOf (100 * century + year) month then some cs else none
  | _ => none

/-- Reads hours and minutes. -/
def minute? : List Char → Option (List Char)
  | a :: b :: ':' :: c :: d :: cs => do
    let _ ← twoDigits? 23 a b
    let _ ← twoDigits? 59 c d
    return cs
  | _ => none

/-- Reads a time of the day. The seconds, which a leap second takes to sixty, may be left out. -/
def time? (cs : List Char) : Option (List Char) := do
  match ← minute? cs with
  | ':' :: a :: b :: rest =>
    let _ ← twoDigits? 60 a b
    match rest with
    | '.' :: fraction =>
      if (fraction.takeWhile Char.isDigit).isEmpty then none else some (fraction.dropWhile Char.isDigit)
    | rest => some rest
  | rest => some rest

/-- Whether a text is nothing, or the distance from universal time. -/
def isOffset : List Char → Bool
  | [] => true
  | [c] => c = 'Z' || c = 'z'
  | sign :: cs => (sign = '+' || sign = '-') && minute? cs = some []

/-- Whether a word is a day, a time, or both. -/
def isDate (cs : List Char) : Bool :=
  match day? cs with
  | some [] => true
  | some (c :: rest) => (c = 'T' || c = 't' || c = ' ') && (time? rest).any isOffset
  | none => time? cs = some []

/-! ## All together -/

/-- The value that a bare word is. -/
def scalar? (cs : List Char) : Option Toml :=
  if cs = "true".toList ∨ cs = "false".toList then some .scalar
  else if isDate cs then some .date
  else (integer? cs).or (float? cs)

end PrinterWiring.Toml
