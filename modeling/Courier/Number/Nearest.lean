import Courier.Number.Binary64

/-!
# The number nearest to a decimal

A decimal of any length is read as the floating point number nearest to it
(`Nearest.float`). Exponents beyond all numbers are cut short first, so that reading takes
no longer for them.
-/

namespace Courier.Nearest

/-- The value of decimal digits. -/
def digitsValue (digits : List Char) : Nat :=
  digits.foldl (fun n c => n * 10 + (c.toNat - 48)) 0

/-- The value of the digits of an exponent; all values from a million on count as one. -/
def exponentValue (digits : List Char) : Nat :=
  digits.foldl (fun n c => min (n * 10 + (c.toNat - 48)) 1000000) 0

/-- The number `digits · 10 ^ exponent`, rounded to the nearest. -/
def float (digits : List Char) (exponent : Int) : Float :=
  let n := digitsValue digits
  let zeros := (digits.takeWhile (· == '0')).length
  let magnitude : Int := exponent + ((digits.length - zeros : Nat) : Int)
  if n = 0 ∨ magnitude < -400 then 0.0
  else if 400 < magnitude then Float.ofScientific 1 false 999
  else Float.ofScientific n (exponent < 0) exponent.natAbs

end Courier.Nearest
