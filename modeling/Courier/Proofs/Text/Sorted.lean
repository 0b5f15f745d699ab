import Courier.Proofs.Sorted

/-!
# Lists sorted by a text

A list may be sorted by a text that each element has, its key. Elements that share a key keep
their order, so of the list that was sorted, the sorted list remembers **the elements of each
key, in their order**, and it remembers nothing else (`Courier.sortedByText_eq_iff`). Of texts that
are their own keys, this is only which of them there are (`Courier.sortedByText_id_eq_iff`).
-/

namespace Courier

variable {β : Type} (key : β → String)

/-- A list sorted by its keys. -/
def sortedByText (l : List β) : List β := l.mergeSort fun a b => key a ≤ key b

theorem sortedByText_perm (l : List β) : (sortedByText key l).Perm l := sortedBy_perm key l

/-- The keys of a sorted list ascend. -/
theorem pairwise_sortedByText (l : List β) :
    (sortedByText key l).Pairwise fun a b => key a ≤ key b :=
  pairwise_sortedBy key l

variable {key}

/-- **What a sorted list remembers**: the elements of each key, in their order. -/
theorem sortedByText_eq_iff {l m : List β} :
    sortedByText key l = sortedByText key m ↔
      ∀ k, l.filter (key · = k) = m.filter (key · = k) :=
  sortedBy_eq_iff

/-- **Texts in ascending order** are known from which texts there are. -/
theorem eq_sortedByText_id_iff {l m : List String} :
    m = sortedByText id l ↔ m.Pairwise (· ≤ ·) ∧ m.Perm l := by
  constructor
  · rintro rfl
    exact ⟨pairwise_sortedByText id l, sortedByText_perm id l⟩
  · rintro ⟨hsorted, hperm⟩
    exact List.Perm.eq_of_pairwise (fun _ _ _ _ => String.le_antisymm) hsorted
      (pairwise_sortedByText id l) (hperm.trans (sortedByText_perm id l).symm)

/-- Sorted texts remember nothing of their order. -/
theorem sortedByText_id_eq_iff {l m : List String} :
    sortedByText id l = sortedByText id m ↔ l.Perm m := by
  have hsorted : (sortedByText id l).Pairwise (· ≤ ·) := pairwise_sortedByText id l
  rw [eq_sortedByText_id_iff, and_iff_right hsorted]
  exact (sortedByText_perm id l).congr_left m

end Courier
