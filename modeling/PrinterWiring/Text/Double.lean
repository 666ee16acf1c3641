/-!
# The range of double precision

Numbers in texts are often kept in double precision, which has 53 binary digits and no room for large
magnitudes. A reader that rounds once refuses a number by its exact value (`Double.exceeded`); one that takes
the digits and the power of ten for themselves rounds three times, and comes to another verdict close to the
limit (`Double.exceededByProduct`).
-/

namespace PrinterWiring.Double

/-- The least magnitude that is rounded to infinity. -/
def limit : Nat := Nat.pow 2 1024 - Nat.pow 2 970

/-- Whether `mantissa · 10 ^ exponent` is at least `limit`. Magnitudes far off are decided by their number of
digits, so that no large power is computed for them. -/
def exceeded (mantissa : Nat) (exponent : Int) : Bool :=
  let digits : Int := (Nat.toDigits 10 mantissa).length
  if mantissa = 0 || digits + exponent < 300 then false
  else if digits + exponent > 400 then true
  else if exponent < 0 then limit * Nat.pow 10 exponent.natAbs ≤ mantissa
  else limit ≤ mantissa * Nat.pow 10 exponent.natAbs

/-- The nearest number with 53 binary digits. Of two that are equally near it is the one whose last digit is
zero. -/
def nearest (n : Nat) : Nat :=
  let place := Nat.pow 2 (n.log2 - 52)
  let below := n / place
  let left := n % place
  place * (if 2 * left > place || (2 * left = place && below % 2 = 1) then below + 1 else below)

/-- Whether the product of a significand and a power of ten, both rounded, is at least `limit`. A negative power
divides and takes no number out of the range. -/
def exceededByProduct (significand : Nat) (exponent : Int) : Bool :=
  if significand = 0 || exponent < 0 then false
  else if exponent > 308 then true
  else limit ≤ nearest significand * nearest (Nat.pow 10 exponent.natAbs)

end PrinterWiring.Double
