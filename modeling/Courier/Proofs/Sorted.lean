import Mathlib.Data.List.Basic

/-!
# Lists sorted by a key

A list may be sorted by a key that each element has. Elements that share a key keep their
order, so of the list that was sorted, the sorted list remembers **the elements of each key, in
their order** (`Courier.filter_sortedBy`), and it remembers nothing else
(`Courier.sortedBy_eq_iff`). Together with the ascending keys this says which list it is
(`Courier.eq_sortedBy_iff`).
-/

namespace Courier

variable {β κ : Type} [LE κ] [DecidableLE κ] (key : β → κ)

/-- A list sorted by its keys. -/
def sortedBy (l : List β) : List β := l.mergeSort fun a b => key a ≤ key b

theorem sortedBy_perm (l : List β) : (sortedBy key l).Perm l := List.mergeSort_perm l _

variable [Std.IsLinearOrder κ]

theorem decide_key_le_trans (a b c : β) (hab : decide (key a ≤ key b) = true)
    (hbc : decide (key b ≤ key c) = true) : decide (key a ≤ key c) = true := by
  rw [decide_eq_true_eq] at *
  exact Std.le_trans hab hbc

theorem decide_key_le_total (a b : β) :
    (decide (key a ≤ key b) || decide (key b ≤ key a)) = true := by
  simpa using Std.le_total (a := key a) (b := key b)

/-- The keys of a sorted list ascend. -/
theorem pairwise_sortedBy (l : List β) : (sortedBy key l).Pairwise fun a b => key a ≤ key b := by
  have hsorted := List.pairwise_mergeSort (decide_key_le_trans key) (decide_key_le_total key) l
  exact hsorted.imp fun hab => of_decide_eq_true hab

/-- **Sorting keeps the elements of a key in their order.** -/
theorem filter_sortedBy [DecidableEq κ] (l : List β) (k : κ) :
    (sortedBy key l).filter (key · = k) = l.filter (key · = k) := by
  have hkey : ∀ {m : List β}, ∀ a ∈ m.filter (key · = k), key a = k := by
    intro m a ha
    simpa using (List.mem_filter.1 ha).2
  -- the elements of a key are sorted as they are, so sorting the list keeps them in line
  have hpair : (l.filter (key · = k)).Pairwise fun a b => decide (key a ≤ key b) = true := by
    refine List.pairwise_of_forall_mem_list fun a ha b hb => ?_
    rw [hkey a ha, hkey b hb]
    exact decide_eq_true (Std.le_refl k)
  have hsub : (l.filter (key · = k)).Sublist (sortedBy key l) :=
    List.sublist_mergeSort (decide_key_le_trans key) (decide_key_le_total key) hpair
      List.filter_sublist
  have hkept := hsub.filter (key · = k)
  rw [List.filter_eq_self.2 fun a ha => decide_eq_true (hkey a ha)] at hkept
  have hlen := ((sortedBy_perm key l).filter (key · = k)).length_eq
  exact (hkept.eq_of_length hlen.symm).symm

variable {key}

omit [DecidableLE κ] in
/-- Two lists with ascending keys are equal if they have the same elements of each key, in the
same order. -/
theorem eq_of_filter_key_eq [DecidableEq κ] {l m : List β}
    (hl : l.Pairwise fun a b => key a ≤ key b) (hm : m.Pairwise fun a b => key a ≤ key b)
    (h : ∀ k, l.filter (key · = k) = m.filter (key · = k)) : l = m := by
  induction l generalizing m with
  | nil =>
    cases m with
    | nil => rfl
    | cons b m => simpa using h (key b)
  | cons a l ih =>
    cases m with
    | nil => simpa using h (key a)
    | cons b m =>
      rw [List.pairwise_cons] at hl hm
      -- each head has an element of its key on the other side, which is not below the head there
      have hab : key a ≤ key b := by
        have hmem : b ∈ (a :: l).filter (key · = key b) := by simp [h (key b)]
        rcases List.mem_cons.1 (List.mem_filter.1 hmem).1 with rfl | hb
        · exact Std.le_refl _
        · exact hl.1 b hb
      have hba : key b ≤ key a := by
        have hmem : a ∈ (b :: m).filter (key · = key a) := by simp [← h (key a)]
        rcases List.mem_cons.1 (List.mem_filter.1 hmem).1 with rfl | ha
        · exact Std.le_refl _
        · exact hm.1 a ha
      have hkey : key b = key a := Std.le_antisymm hba hab
      have hhead := h (key a)
      rw [List.filter_cons_of_pos (by simp), List.filter_cons_of_pos (by simp [hkey]),
        List.cons.injEq] at hhead
      obtain ⟨rfl, -⟩ := hhead
      refine congrArg _ (ih hl.2 hm.2 fun k => ?_)
      have hk := h k
      by_cases hak : key a = k
      · simpa [List.filter_cons, hak] using hk
      · simpa [List.filter_cons, hak] using hk

/-- **Which list the sorted one is**: the only one with ascending keys that has the elements of
each key in their order. -/
theorem eq_sortedBy_iff [DecidableEq κ] {l m : List β} :
    m = sortedBy key l ↔ (m.Pairwise fun a b => key a ≤ key b) ∧
      ∀ k, m.filter (key · = k) = l.filter (key · = k) := by
  constructor
  · rintro rfl
    exact ⟨pairwise_sortedBy key l, filter_sortedBy key l⟩
  · rintro ⟨hm, h⟩
    refine eq_of_filter_key_eq hm (pairwise_sortedBy key l) fun k => ?_
    rw [h k, filter_sortedBy]

/-- **What a sorted list remembers**: the elements of each key, in their order. -/
theorem sortedBy_eq_iff [DecidableEq κ] {l m : List β} :
    sortedBy key l = sortedBy key m ↔ ∀ k, l.filter (key · = k) = m.filter (key · = k) := by
  rw [eq_sortedBy_iff]
  simp only [filter_sortedBy, and_iff_right (pairwise_sortedBy key l)]

end Courier
