import Courier.Number.Scalar

/-!
# Binary floating point numbers

A number of the format binary64, held by its 64 bits. The arithmetic is that of `Float`;
the bits are kept beside it because the total order tells more apart than arithmetic
does: negative from positive zero, and a NaN with its sign set, which comes before
everything, from one without, which comes after everything (`Binary64.key`).
-/

namespace Courier

/-- A number of the format binary64. -/
structure Binary64 where
  bits : UInt64
deriving DecidableEq, Inhabited

namespace Binary64

/-- The number as arithmetic sees it. -/
def toFloat (x : Binary64) : Float := Float.ofBits x.bits

/-- A result of arithmetic. -/
def ofFloat (x : Float) : Binary64 := ⟨x.toBits⟩

/-- The number nearest to a natural number. -/
def ofNat (n : Nat) : Binary64 := ofFloat (Float.ofNat n)

/-- Whether the number stands for no number. -/
def isNaN (x : Binary64) : Bool := x.toFloat.isNaN

/-- Neither infinite nor a NaN. -/
def isFinite (x : Binary64) : Bool := x.toFloat.isFinite

/-- **The total order as a key**: numbers with a clear sign bit in the order of their
bits, below them those with a set sign bit in the opposite order. -/
def key (x : Binary64) : Int :=
  let n := x.bits.toNat
  if n < Nat.pow 2 63 then n else -((n - Nat.pow 2 63 : Nat) : Int) - 1

/-- Different numbers have different keys. -/
theorem key_injective {x y : Binary64} (h : x.key = y.key) : x = y := by
  cases x with | mk a =>
  cases y with | mk b =>
  have ha := a.toNat_lt
  have hb := b.toNat_lt
  simp only [key] at h
  congr 1
  apply UInt64.toNat_inj.1
  split at h <;> split at h <;> omega

instance : Scalar Binary64 where
  ofNat := ofNat
  add x y := ofFloat (x.toFloat + y.toFloat)
  sub x y := ofFloat (x.toFloat - y.toFloat)
  mul x y := ofFloat (x.toFloat * y.toFloat)
  div x y := ofFloat (x.toFloat / y.toFloat)
  floor x := x.toFloat.toUInt64.toNat
  lt x y := x.toFloat < y.toFloat
  le x y := x.toFloat ≤ y.toFloat
  sortsBefore x y := x.key ≤ y.key

instance : LawfulScalar Binary64 where
  sortsBefore_total x y := by
    simpa [Scalar.sortsBefore] using Int.le_total x.key y.key
  sortsBefore_trans x y z hxy hyz := by
    simp only [Scalar.sortsBefore, decide_eq_true_eq] at *
    omega

end Binary64

end Courier
