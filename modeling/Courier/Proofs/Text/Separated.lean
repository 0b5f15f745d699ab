import Courier.Text.Piece
import Mathlib.Data.List.TakeDrop
import Mathlib.Data.List.TakeWhile

/-!
# Pieces between separators

Texts that are joined by a character can be told apart again as long as none of them holds
the character (`Courier.splitAll_intercalate`). So the joined text determines its pieces –
all of them, if there is at least one (`Courier.intercalate_inj`), or if none of them is
empty, for then no piece at all is told from one (`Courier.intercalate_inj_of_ne_empty`).
Of two parts it is enough that the first does not hold the character
(`Courier.append_inj_of_notMem`), or that the second does not
(`Courier.append_inj_of_notMem_right`).
-/

namespace Courier

/-- A text is cut where a property ends. -/
theorem span_append {α : Type} {p : α → Bool} {l t : List α} (hl : ∀ x ∈ l, p x = true)
    (ht : ∀ x ∈ t.head?, p x = false) : (l ++ t).span p = (l, t) := by
  rw [List.span_eq_takeWhile_dropWhile, List.takeWhile_append_of_pos hl,
    List.dropWhile_append_of_pos hl]
  cases t with
  | nil => simp
  | cons x t =>
    have hx : p x = false := ht x rfl
    simp [hx]

/-- A text is cut **only** where a property ends. -/
theorem span_eq_iff {α : Type} {p : α → Bool} {l s t : List α} :
    l.span p = (s, t) ↔ l = s ++ t ∧ (∀ x ∈ s, p x = true) ∧ ∀ x ∈ t.head?, p x = false := by
  constructor
  · rw [List.span_eq_takeWhile_dropWhile]
    rintro ⟨⟩
    refine ⟨List.takeWhile_append_dropWhile.symm, fun x => List.mem_takeWhile_imp, fun x hx => ?_⟩
    have hnot := List.head?_dropWhile_not p l
    rwa [Option.mem_def.1 hx] at hnot
  · rintro ⟨rfl, hs, ht⟩
    exact span_append hs ht

/-- What is joined holds no other characters than the pieces and the separator. -/
theorem mem_or_mem_of_mem_intercalate {sep : String} {c : Char} {l : List String}
    (h : c ∈ (sep.intercalate l).toList) : c ∈ sep.toList ∨ ∃ s ∈ l, c ∈ s.toList := by
  induction l with
  | nil => simp at h
  | cons s l ih =>
    cases l with
    | nil => exact Or.inr ⟨s, by simp, by simpa using h⟩
    | cons t l =>
      rw [String.intercalate_cons_cons, String.toList_append, String.toList_append,
        List.mem_append, List.mem_append] at h
      rcases h with (h | h) | h
      · exact Or.inr ⟨s, by simp, h⟩
      · exact Or.inl h
      · refine (ih h).imp_right ?_
        rintro ⟨u, hu, hc⟩
        exact ⟨u, List.mem_cons_of_mem _ hu, hc⟩

theorem notMem_intercalate {sep : String} {c : Char} (hsep : c ∉ sep.toList) {l : List String}
    (hl : ∀ s ∈ l, c ∉ s.toList) : c ∉ (sep.intercalate l).toList := by
  intro h
  rcases mem_or_mem_of_mem_intercalate h with h | ⟨s, hs, h⟩
  · exact hsep h
  · exact hl s hs h

section Separator

variable {sep : String} {c : Char} (hsep : sep.toList = [c])
include hsep

/-- **Splitting undoes joining.** -/
theorem splitAll_intercalate {l : List String} (hl : l ≠ []) (h : ∀ s ∈ l, c ∉ s.toList) :
    splitAll c (sep.intercalate l) = l := by
  rw [splitAll, String.toList_intercalate, hsep, List.splitOn_intercalate]
  · simp [Function.comp_def]
  · intro s hs
    obtain ⟨t, ht, rfl⟩ := List.mem_map.1 hs
    exact h t ht
  · simpa using hl

/-- **Joining undoes splitting.** -/
theorem intercalate_splitAll (s : String) : sep.intercalate (splitAll c s) = s := by
  have h : (sep.intercalate (splitAll c s)).toList = s.toList := by
    rw [String.toList_intercalate, hsep, splitAll, List.map_map]
    simp [Function.comp_def]
  exact String.toList_inj.1 h

/-- Two texts joined by the separator are split each on its own. -/
theorem splitAll_append (s t : String) :
    splitAll c (s ++ sep ++ t) = splitAll c s ++ splitAll c t := by
  simp [splitAll, hsep, List.splitOn_append_cons_self]

omit hsep in
/-- A text without the separator is its only piece. -/
theorem splitAll_of_notMem {s : String} (h : c ∉ s.toList) : splitAll c s = [s] := by
  simp [splitAll, List.splitOn_eq_singleton h]

/-- What is joined determines its pieces, if there are any. -/
theorem intercalate_inj {l m : List String} (hl : l ≠ []) (hm : m ≠ [])
    (hlc : ∀ s ∈ l, c ∉ s.toList) (hmc : ∀ s ∈ m, c ∉ s.toList)
    (h : sep.intercalate l = sep.intercalate m) : l = m := by
  rw [← splitAll_intercalate hsep hl hlc, h, splitAll_intercalate hsep hm hmc]

omit hsep in
/-- Joining pieces of which none is empty gives a text that is not empty. -/
theorem intercalate_ne_empty {l : List String} (hl : l ≠ []) (h : ∀ s ∈ l, s ≠ "") :
    sep.intercalate l ≠ "" := by
  match l with
  | [s] => simpa using h s
  | s :: t :: l =>
    intro he
    rw [String.intercalate_cons_cons, String.append_assoc, String.append_eq_empty_iff] at he
    exact h s (by simp) he.1

/-- What is joined determines its pieces, if none of them is empty. -/
theorem intercalate_inj_of_ne_empty {l m : List String}
    (hl : ∀ s ∈ l, s ≠ "" ∧ c ∉ s.toList) (hm : ∀ s ∈ m, s ≠ "" ∧ c ∉ s.toList)
    (h : sep.intercalate l = sep.intercalate m) : l = m := by
  by_cases hl₀ : l = []
  · by_cases hm₀ : m = []
    · rw [hl₀, hm₀]
    · rw [hl₀, String.intercalate_nil] at h
      exact absurd h.symm (intercalate_ne_empty hm₀ fun s hs => (hm s hs).1)
  · by_cases hm₀ : m = []
    · rw [hm₀, String.intercalate_nil] at h
      exact absurd h (intercalate_ne_empty hl₀ fun s hs => (hl s hs).1)
    · exact intercalate_inj hsep hl₀ hm₀ (fun s hs => (hl s hs).2) (fun s hs => (hm s hs).2) h

/-- A text is cut at the first separator. -/
theorem splitAtFirst?_append {a : String} (ha : c ∉ a.toList) (x : String) :
    splitAtFirst? c (a ++ sep ++ x) = some (a, x) := by
  have hne : ∀ d ∈ a.toList, decide (d ≠ c) = true := by
    intro d hd
    exact decide_eq_true fun e => ha (e ▸ hd)
  have hcut : (a ++ sep ++ x).toList.span (· ≠ c) = (a.toList, c :: x.toList) := by
    rw [String.toList_append, String.toList_append, hsep, List.append_assoc,
      List.singleton_append, List.span_eq_takeWhile_dropWhile, List.takeWhile_append_of_pos hne,
      List.dropWhile_append_of_pos hne]
    simp
  rw [splitAtFirst?, hcut]
  simp

omit hsep in
/-- Without a separator there is nothing to cut. -/
theorem splitAtFirst?_of_notMem {s : String} (h : c ∉ s.toList) : splitAtFirst? c s = none := by
  have hne : ∀ d ∈ s.toList, decide (d ≠ c) = true := by
    intro d hd
    exact decide_eq_true fun e => h (e ▸ hd)
  rw [splitAtFirst?, List.span_eq_takeWhile_dropWhile, List.dropWhile_eq_nil_iff.2 hne]

/-- A text that is cut is cut at a separator, and it is the first. -/
theorem splitAtFirst?_eq_some_iff {s a x : String} :
    splitAtFirst? c s = some (a, x) ↔ c ∉ a.toList ∧ s = a ++ sep ++ x := by
  constructor
  · intro h
    by_cases hc : c ∈ s.toList
    · obtain ⟨front, rest, hs, hfront⟩ := List.eq_append_cons_of_mem hc
      have he : s = String.ofList front ++ sep ++ String.ofList rest :=
        String.toList_inj.1 (by simp [hs, hsep])
      rw [he, splitAtFirst?_append hsep (by simpa using hfront)] at h
      obtain ⟨rfl, rfl⟩ := Prod.mk.inj (Option.some.inj h)
      exact ⟨by simpa using hfront, he⟩
    · rw [splitAtFirst?_of_notMem hc] at h
      cases h
  · rintro ⟨ha, rfl⟩
    exact splitAtFirst?_append hsep ha x

/-- Two parts are told apart at the first separator. -/
theorem append_inj_of_notMem {a b x y : String} (ha : c ∉ a.toList) (hb : c ∉ b.toList)
    (h : a ++ sep ++ x = b ++ sep ++ y) : a = b ∧ x = y := by
  have hcut := congrArg (splitAtFirst? c) h
  rw [splitAtFirst?_append hsep ha, splitAtFirst?_append hsep hb] at hcut
  exact Prod.mk.inj (Option.some.inj hcut)

/-- Two parts are told apart at the last separator. -/
theorem append_inj_of_notMem_right {a b x y : String} (hx : c ∉ x.toList) (hy : c ∉ y.toList)
    (h : a ++ sep ++ x = b ++ sep ++ y) : a = b ∧ x = y := by
  have hchars : a.toList ++ c :: x.toList = b.toList ++ c :: y.toList := by
    have hlist := congrArg String.toList h
    simpa only [String.toList_append, hsep, List.append_assoc, List.singleton_append] using hlist
  -- between the two separators there would be a second one
  have hsame {u v t : List Char} (hu : c ∉ u) (he : c :: u = t ++ c :: v) : t = [] := by
    cases t with
    | nil => rfl
    | cons d t =>
      rw [List.cons_append, List.cons.injEq] at he
      exact absurd (he.2 ▸ List.mem_append_right t List.mem_cons_self) hu
  rcases List.append_eq_append_iff.1 hchars with ⟨t, hb, he⟩ | ⟨t, ha, he⟩
  · obtain rfl := hsame hx he
    rw [List.append_nil] at hb
    exact ⟨String.toList_inj.1 hb.symm, String.toList_inj.1 (List.cons.inj he).2⟩
  · obtain rfl := hsame hy he
    rw [List.append_nil] at ha
    exact ⟨String.toList_inj.1 ha, String.toList_inj.1 (List.cons.inj he).2.symm⟩

end Separator

/-- What stands before the first occurrence of a character is part of the text. -/
theorem mem_of_splitAtFirst? {c d : Char} {s a x : String} (h : splitAtFirst? d s = some (a, x))
    (hc : c ∈ a.toList) : c ∈ s.toList := by
  obtain ⟨-, rfl⟩ := (splitAtFirst?_eq_some_iff (String.toList_singleton d)).1 h
  simp [hc]

end Courier
