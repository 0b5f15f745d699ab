/-!
# Numbers that can be measured and ranked

Scores, rates and samples are numbers that are added, divided, compared and sorted. The
rules of this library say **which operations are applied in which order**; what the
operations are is left to the class `Courier.Scalar`, so that the same rules can be run
over binary floating point and read over exact fractions.

The class has two comparisons, because floating point has two. `Scalar.lt` and
`Scalar.le` compare values, and `Scalar.sortsBefore` is the total order by which lists are
sorted. What sorting asks of it is the class `Courier.LawfulScalar`.
-/

namespace Courier

/-- Numbers with the operations that rates, scores and statistics are made of. -/
class Scalar (α : Type) where
  /-- A natural number. -/
  ofNat : Nat → α
  add : α → α → α
  sub : α → α → α
  mul : α → α → α
  div : α → α → α
  /-- The greatest natural number that is not above. -/
  floor : α → Nat
  /-- Smaller in value. -/
  lt : α → α → Bool
  /-- Not greater in value. -/
  le : α → α → Bool
  /-- Not after the other in the order of sorting. -/
  sortsBefore : α → α → Bool

namespace Scalar

variable {α : Type} [Scalar α]

/-- The sum of a list, from the left and starting at zero. -/
def sum (xs : List α) : α := xs.foldl add (ofNat 0)

/-- A list in ascending order. -/
def ascending (xs : List α) : List α := xs.mergeSort sortsBefore

/-- Sorting loses no number. -/
theorem ascending_ne_nil {xs : List α} (h : xs ≠ []) : ascending xs ≠ [] := by
  intro hnil
  have hlength := congrArg List.length hnil
  rw [ascending, List.length_mergeSort] at hlength
  exact h (List.length_eq_zero_iff.1 hlength)

end Scalar

/-- Numbers whose order of sorting is total and transitive. -/
class LawfulScalar (α : Type) [Scalar α] : Prop where
  sortsBefore_total : ∀ a b : α, (Scalar.sortsBefore a b || Scalar.sortsBefore b a) = true
  sortsBefore_trans : ∀ a b c : α, Scalar.sortsBefore a b = true →
    Scalar.sortsBefore b c = true → Scalar.sortsBefore a c = true

/-- A sorted list is in the order of sorting. -/
theorem Scalar.pairwise_ascending {α : Type} [Scalar α] [LawfulScalar α] (xs : List α) :
    (ascending xs).Pairwise fun x y => sortsBefore x y = true :=
  List.pairwise_mergeSort LawfulScalar.sortsBefore_trans LawfulScalar.sortsBefore_total xs

end Courier
