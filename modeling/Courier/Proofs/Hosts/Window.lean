import Courier.Hosts.Window
import Courier.Number.Fraction
import Mathlib.Algebra.Order.Field.Rat
import Mathlib.Data.List.Basic
import Mathlib.Data.List.DropRight

/-!
# What a window holds

A window keeps the number of its failures beside its slots, and adjusts it with every
outcome. `Courier.Window.IsSound` says that the number is **the number of failures among the
slots** and that the slot to overwrite next exists; a fresh window is sound, and an outcome
keeps it so.

Read from the oldest on, a sound window forgets one outcome for each that it takes
(`Courier.Window.IsSound.recent_put`). So a window that was fresh holds the failures **among
the last outcomes**, as many of them as it has slots
(`Courier.Window.failures_putAll_ofSize`), and the whole of it is these outcomes
(`Courier.Window.recent_eq_and_failures_eq`).

Read over exact fractions, the score of a window falls as its failures grow
(`Courier.Window.sortsBefore_score_iff`), as long as the windows compared are of one size.
-/

namespace Courier

namespace Window

/-- The number kept beside the slots is right, and the slot to overwrite exists. -/
structure IsSound (w : Window) : Prop where
  next_lt : w.next < w.slots.length
  failures_eq : w.failures = w.slots.count false

@[simp] theorem size_ofSize (size : Nat) : (ofSize size).size = max size 1 := by
  simp [ofSize, Window.size]

theorem isSound_ofSize (size : Nat) : (ofSize size).IsSound where
  next_lt := by
    simp only [ofSize, List.length_replicate]
    omega
  failures_eq := by simp [ofSize, List.count_replicate]

theorem IsSound.size_pos {w : Window} (h : w.IsSound) : 0 < w.size :=
  Nat.lt_of_le_of_lt (Nat.zero_le _) h.next_lt

/-- **An outcome keeps a window sound.** -/
theorem IsSound.put {w : Window} (h : w.IsSound) (success : Bool) : (w.put success).IsSound where
  next_lt := by
    have hpos : 0 < w.slots.length := h.size_pos
    simpa [Window.put] using Nat.mod_lt _ hpos
  failures_eq := by
    have hnext := h.next_lt
    have hget : w.slots.getD w.next true = w.slots[w.next] := by
      simp [List.getD_eq_getElem?_getD, hnext]
    simp only [Window.put, hget, h.failures_eq, List.count_set hnext]
    cases w.slots[w.next] <;> cases success <;> simp

theorem IsSound.putAll {w : Window} (h : w.IsSound) (outcomes : List Bool) :
    (w.putAll outcomes).IsSound := by
  induction outcomes generalizing w with
  | nil => exact h
  | cons o rest ih => exact ih (h.put o)

@[simp] theorem size_putAll (w : Window) (outcomes : List Bool) :
    (w.putAll outcomes).size = w.size := by
  induction outcomes generalizing w with
  | nil => rfl
  | cons o rest ih => exact (ih (w.put o)).trans (size_put w o)

theorem putAll_append (w : Window) (outcomes outcomes' : List Bool) :
    w.putAll (outcomes ++ outcomes') = (w.putAll outcomes).putAll outcomes' :=
  List.foldl_append

/-- The number of failures is that among the remembered outcomes. -/
theorem IsSound.failures_eq_count_recent {w : Window} (h : w.IsSound) :
    w.failures = w.recent.count false := by
  rw [h.failures_eq, recent, List.count_append, Nat.add_comm, ← List.count_append,
    List.take_append_drop]

@[simp] theorem length_recent (w : Window) : w.recent.length = w.size := by
  rw [recent, List.length_append, List.length_drop, List.length_take, size]
  omega

theorem IsSound.failures_le_size {w : Window} (h : w.IsSound) : w.failures ≤ w.size := by
  rw [h.failures_eq_count_recent, ← length_recent]
  exact List.count_le_length

/-- **The slot to overwrite next holds the oldest outcome.** -/
theorem IsSound.getElem?_next {w : Window} (h : w.IsSound) :
    w.slots[w.next]? = w.recent.head? := by
  have hnext := h.next_lt
  rw [recent, List.drop_eq_getElem_cons hnext, List.cons_append, List.head?_cons,
    List.getElem?_eq_getElem hnext]

/-- **What is taken off the number was counted in it**: an oldest outcome that is a failure is
one of the failures. -/
theorem IsSound.failures_pos {w : Window} (h : w.IsSound)
    (holdest : w.slots[w.next]? = some false) : 0 < w.failures := by
  rw [h.failures_eq]
  exact List.count_pos_iff.2 (List.mem_of_getElem? holdest)

/-- **An outcome takes the place of the oldest.** -/
theorem IsSound.recent_put {w : Window} (h : w.IsSound) (success : Bool) :
    (w.put success).recent = w.recent.tail ++ [success] := by
  obtain ⟨slots, next, failures⟩ := w
  have hnext : next < slots.length := h.next_lt
  have hset : slots.set next success = slots.take next ++ success :: slots.drop (next + 1) := by
    rw [List.set_eq_take_append_cons_drop, if_pos hnext]
  have hlen : (slots.take next).length = next := List.length_take_of_le hnext.le
  simp only [recent, Window.put]
  rw [List.drop_eq_getElem_cons hnext, hset, List.cons_append, List.tail_cons]
  by_cases hlast : next + 1 = slots.length
  · -- the ring is written to its end, so it is read from its start again
    rw [hlast, Nat.mod_self, List.drop_zero, List.take_zero, List.drop_length]
    simp
  · have hmod : (next + 1) % slots.length = next + 1 := Nat.mod_eq_of_lt (by omega)
    have hbefore : (slots.take next).drop (next + 1) = [] :=
      List.drop_of_length_le (by omega)
    have hkept : (slots.take next).take (next + 1) = slots.take next :=
      List.take_of_length_le (by omega)
    rw [hmod, List.drop_append, List.take_append, hlen, hbefore, hkept]
    simp

theorem IsSound.recent_ne_nil {w : Window} (h : w.IsSound) : w.recent ≠ [] := by
  have hnext := h.next_lt
  rw [← List.length_pos_iff, recent, List.length_append, List.length_drop, List.length_take]
  omega

/-- **As many outcomes are forgotten as are taken**, from the oldest on. -/
theorem IsSound.recent_putAll {w : Window} (h : w.IsSound) (outcomes : List Bool) :
    (w.putAll outcomes).recent = (w.recent ++ outcomes).drop outcomes.length := by
  induction outcomes generalizing w with
  | nil => simp [show w.putAll [] = w from rfl]
  | cons success outcomes ih =>
    obtain ⟨oldest, others, hrecent⟩ := List.exists_cons_of_ne_nil h.recent_ne_nil
    refine (ih (h.put success)).trans ?_
    rw [h.recent_put, hrecent]
    simp

/-- A fresh window remembers successes. -/
@[simp] theorem recent_ofSize (size : Nat) :
    (ofSize size).recent = List.replicate (max size 1) true := by
  simp [recent, ofSize]

/-- **What a window that was fresh remembers** are the last outcomes, with successes before the
first of them. -/
theorem recent_putAll_ofSize (size : Nat) (outcomes : List Bool) :
    ((ofSize size).putAll outcomes).recent
      = (List.replicate (max size 1) true ++ outcomes).rtake (max size 1) := by
  rw [(isSound_ofSize size).recent_putAll, recent_ofSize, List.rtake, List.length_append,
    List.length_replicate, Nat.add_sub_cancel_left]

/-- **The failures of a window that was fresh** are those among the last outcomes. -/
theorem failures_putAll_ofSize (size : Nat) (outcomes : List Bool) :
    ((ofSize size).putAll outcomes).failures = (outcomes.rtake (max size 1)).count false := by
  have hfresh := isSound_ofSize size
  rw [(hfresh.putAll outcomes).failures_eq_count_recent, hfresh.recent_putAll, recent_ofSize,
    List.drop_append, List.length_replicate, List.count_append, List.drop_replicate,
    List.count_replicate]
  simp [List.rtake]

/-- **A window is the list of its last outcomes**, whatever it took and however often it went
round: with successes before the first outcome,

* it remembers just the last outcomes, as many as it has slots, and their number never changes;
* the number of failures is the number of failures among them, so it is at most their number;
* the slot to overwrite next is one of its slots and holds the oldest of them;
* if that is a failure, the number from which it is taken off is not zero. -/
theorem recent_eq_and_failures_eq (size : Nat) (outcomes : List Bool) :
    let w := (ofSize size).putAll outcomes
    let last := (List.replicate (max size 1) true ++ outcomes).rtake (max size 1)
    w.recent = last ∧ w.size = max size 1 ∧
      w.failures = last.count false ∧ w.failures ≤ max size 1 ∧
      w.next < max size 1 ∧ w.slots[w.next]? = last.head? ∧
      (w.slots[w.next]? = some false → 0 < w.failures) := by
  intro w last
  have hsound : w.IsSound := (isSound_ofSize size).putAll outcomes
  have hrecent : w.recent = last := recent_putAll_ofSize size outcomes
  have hsize : w.size = max size 1 := (size_putAll _ outcomes).trans (size_ofSize size)
  refine ⟨hrecent, hsize, ?_, ?_, ?_, ?_, hsound.failures_pos⟩
  · rw [hsound.failures_eq_count_recent, hrecent]
  · exact hsize ▸ hsound.failures_le_size
  · exact hsize ▸ hsound.next_lt
  · rw [hsound.getElem?_next, hrecent]

/-- **Of two windows of one size, the one with fewer failures scores higher.** -/
theorem sortsBefore_score_iff {w w' : Window} (hpos : 0 < w.size) (hsize : w.size = w'.size) :
    Scalar.sortsBefore (w.score Rat) (w'.score Rat) = true ↔ w'.failures ≤ w.failures := by
  have hden : (0 : Rat) < (w'.size : Rat) := by exact_mod_cast hsize ▸ hpos
  have key : w.score Rat ≤ w'.score Rat ↔ (w'.failures : Rat) ≤ (w.failures : Rat) := by
    change (1 : Rat) - (w.failures : Rat) / (w.size : Rat)
      ≤ 1 - (w'.failures : Rat) / (w'.size : Rat) ↔ _
    rw [hsize, sub_le_sub_iff_left, div_le_div_iff_of_pos_right hden]
  change decide (w.score Rat ≤ w'.score Rat) = true ↔ _
  rw [decide_eq_true_iff, key, Nat.cast_le]

end Window

end Courier
