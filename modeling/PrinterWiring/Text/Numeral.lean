/-!
# Unsigned numerals

A numeral is an optional `+` and at least one ASCII digit; leading zeros are allowed. It is read
against a bound, from the left: the first character that is no digit, or the first digit that takes
the value to the bound, decides which error is reported.
-/

namespace PrinterWiring.Text

/-- Why a text is no numeral below the bound. -/
inductive NumeralError where
  | empty
  | invalidDigit
  | tooLarge
deriving DecidableEq, Repr

def NumeralError.message : NumeralError → String
  | .empty => "cannot parse integer from empty string"
  | .invalidDigit => "invalid digit found in string"
  | .tooLarge => "number too large to fit in target type"

/-- The value of a digit. -/
def digitValue (c : Char) : Nat := c.toNat - '0'.toNat

/-- Reads digits on top of the value read so far. -/
def readDigits (bound : Nat) : Nat → List Char → Except NumeralError Nat
  | value, [] => .ok value
  | value, c :: cs =>
    if !c.isDigit then .error .invalidDigit
    else if 10 * value + digitValue c < bound then readDigits bound (10 * value + digitValue c) cs
    else .error .tooLarge

/-- Reads a numeral whose value is below `bound`. -/
def readNumeral (bound : Nat) (s : String) : Except NumeralError Nat :=
  match s.toList with
  | [] => .error .empty
  | ['+'] => .error .invalidDigit
  | '+' :: digits => readDigits bound 0 digits
  | digits => readDigits bound 0 digits

/-- A number below one thousand with its leading zeros, as it stands after a decimal point. -/
def thousandths (n : Nat) : String :=
  (if n < 10 then "00" else if n < 100 then "0" else "") ++ toString n

/-- A count of thousandths as a decimal with three places. -/
def threePlaces (n : Nat) : String := toString (n / 1000) ++ "." ++ thousandths (n % 1000)

end PrinterWiring.Text
