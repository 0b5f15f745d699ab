import Courier.Number.Binary64

/-!
# The shortest decimal of a floating point number

A finite number is the middle of the interval of reals that are rounded to it. Its
shortest decimal is the one with the fewest digits in that interval, and of those the
nearest to the number; of two equally near, the one with an even last digit.

The search is exact. The number and the ends of its interval are fractions with a common
denominator (`Shortest.Interval`). On the grid of the multiples of a power of ten only
the two neighbours of the number can be nearest, so it is enough to try these, from the
coarsest grid on (`Shortest.onGrid?`, `Shortest.search`).
-/

namespace Courier.Shortest

/-- A positive number and the ends of the interval of reals that are rounded to it, as
numerators over one denominator. -/
structure Interval where
  low : Nat
  middle : Nat
  high : Nat
  denominator : Nat
  /-- Whether the ends themselves are rounded to the number. -/
  closed : Bool

/-- The interval of `mantissa · 2 ^ (exponent - 1074)`. It reaches less far down at a
power of two, where the numbers below lie closer together. -/
def Interval.of (mantissa exponent : Nat) : Interval :=
  let below := if mantissa = Nat.pow 2 52 ∧ 0 < exponent then 1 else 2
  let scale := Nat.pow 2 exponent
  { low := (4 * mantissa - below) * scale
    middle := 4 * mantissa * scale
    high := (4 * mantissa + 2) * scale
    denominator := Nat.pow 2 1076
    closed := mantissa % 2 = 0 }

/-- A decimal: `digits · 10 ^ exponent`. -/
structure Decimal where
  digits : Nat
  exponent : Int
deriving DecidableEq, Repr

/-- The decimal on the grid of the multiples of `10 ^ k` that lies in the interval and
nearest to its middle. -/
def onGrid? (i : Interval) (k : Int) : Option Decimal :=
  -- a grid finer than the integers is scaled up, one coarser widens the unit
  let up := if 0 ≤ k then 1 else Nat.pow 10 k.natAbs
  let unit := if 0 ≤ k then i.denominator * Nat.pow 10 k.natAbs else i.denominator
  let floor := i.middle * up / unit
  let inside (c : Nat) : Bool :=
    if i.closed then i.low * up ≤ c * unit && c * unit ≤ i.high * up
    else i.low * up < c * unit && c * unit < i.high * up
  let gapBelow := i.middle * up - floor * unit
  let gapAbove := (floor + 1) * unit - i.middle * up
  let preferBelow := gapBelow < gapAbove || (gapBelow == gapAbove && floor % 2 == 0)
  match 0 < floor && inside floor, inside (floor + 1) with
  | true, true => some ⟨if preferBelow then floor else floor + 1, k⟩
  | true, false => some ⟨floor, k⟩
  | false, true => some ⟨floor + 1, k⟩
  | false, false => none

/-- The first grid with a decimal in the interval, from `10 ^ k` downwards. -/
def search (i : Interval) : Nat → Int → Option Decimal
  | 0, _ => none
  | tries + 1, k =>
    match onGrid? i k with
    | some d => some d
    | none => search i tries (k - 1)

/-- The mantissa and exponent of the bits of a finite number. -/
def parts (bits : UInt64) : Nat × Nat :=
  let field := bits.toNat / Nat.pow 2 52 % 2048
  let fraction := bits.toNat % Nat.pow 2 52
  if field = 0 then (fraction, 0) else (Nat.pow 2 52 + fraction, field - 1)

/-- The shortest decimal of the size of a finite number, zero for zero. -/
def decimal (bits : UInt64) : Decimal :=
  let (mantissa, exponent) := parts bits
  if mantissa = 0 then ⟨0, 0⟩
  else
    -- 0.30103 is the logarithm of two, so the search begins at or above the first grid
    let log2 : Int := (Nat.log2 mantissa : Int) + exponent - 1074
    let estimate := Int.fdiv (log2 * 30103) 100000
    (search (Interval.of mantissa exponent) 20 (estimate + 1)).getD ⟨0, 0⟩

end Courier.Shortest
