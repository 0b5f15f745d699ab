import Mathlib.Data.List.Basic

/-!
# Lists without repetitions

What it takes to say that `List.eraseDups` leaves every element **exactly once**: the library
has membership, here is the absence of repetitions.
-/

namespace Courier

variable {α : Type} [BEq α] [LawfulBEq α]

/-- What is left when repetitions are erased has none. -/
theorem nodup_eraseDups (l : List α) : l.eraseDups.Nodup := by
  induction hn : l.length using Nat.strongRecOn generalizing l with
  | _ n ih =>
    cases l with
    | nil => simp
    | cons a l =>
      -- erasing goes on with the elements other than the first
      have hlt : (l.filter fun b => !b == a).length < n := by
        rw [← hn]
        exact Nat.lt_succ_of_le (List.length_filter_le _ l)
      rw [List.eraseDups_cons, List.nodup_cons]
      refine ⟨?_, ih _ hlt _ rfl⟩
      simp

end Courier
