import Courier.Number.Scalar

/-!
# Exact fractions

The rules for rates, scores and statistics read over exact fractions: no operation rounds,
and sorting is by value. What holds here of a rule is what it does apart from the rounding
of `Courier.Binary64`.
-/

namespace Courier

instance : Scalar Rat where
  ofNat n := n
  add x y := x + y
  sub x y := x - y
  mul x y := x * y
  div x y := x / y
  floor x := x.floor.toNat
  lt x y := x < y
  le x y := x ≤ y
  sortsBefore x y := x ≤ y

instance : LawfulScalar Rat where
  sortsBefore_total x y := by
    simpa [Scalar.sortsBefore] using Rat.le_total
  sortsBefore_trans x y z hxy hyz := by
    simp only [Scalar.sortsBefore, decide_eq_true_eq] at *
    exact Rat.le_trans hxy hyz

end Courier
