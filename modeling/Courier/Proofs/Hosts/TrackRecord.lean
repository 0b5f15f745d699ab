import Courier.Hosts.TrackRecord
import Courier.Proofs.Hosts.Window
import Mathlib.Data.List.Basic
import Mathlib.Data.List.Nodup

/-!
# What a scoring pass does to the windows

Outcomes of one host never reach the window of another, so what a pass leaves of a window can
be said **host by host**:

* `Courier.TrackRecord.get?_startPass` – at the start, windows of hosts not in the list go;
* `Courier.TrackRecord.get?_endPass` – at the end, the window of a host has taken the outcomes
  of this host, in their order, and no others;
* `Courier.TrackRecord.scoreOf_endPass` – if no host occurs twice, the score given for a host
  is that of the window it is left with.

All windows of a track record are sound and of one size (`Courier.TrackRecord.IsSound`).
-/

namespace Courier

namespace TrackRecord

/-! ### Windows, host by host -/

@[simp] theorem size_record (t : TrackRecord) (host : String) (success : Bool) :
    (t.record host success).size = t.size := rfl

theorem get?_record (t : TrackRecord) (host other : String) (success : Bool) :
    (t.record host success).windows.get? other =
      if other = host then some ((t.window host).put success) else t.windows.get? other :=
  Table.get?_insert _ _ _ _

theorem window_record (t : TrackRecord) (host other : String) (success : Bool) :
    (t.record host success).window other =
      if other = host then (t.window host).put success else t.window other := by
  rw [window, get?_record]
  by_cases h : other = host <;> simp [h, window]

@[simp] theorem size_startPass (t : TrackRecord) (hosts : List String) :
    (t.startPass hosts).size = t.size := rfl

/-- **At the start of a pass the windows of other hosts go.** -/
theorem get?_startPass (t : TrackRecord) (hosts : List String) (host : String) :
    (t.startPass hosts).windows.get? host =
      if host ∈ hosts then t.windows.get? host else none := by
  have h := Table.get?_filter_key (fun k => hosts.contains k) t.windows host
  simpa [startPass] using h

/-- The outcomes of a host among those of all hosts, in their order. -/
def outcomesOf (host : String) (l : List (String × Bool)) : List Bool :=
  (l.filter (·.1 = host)).map (·.2)

theorem outcomesOf_cons (host : String) (e : String × Bool) (l : List (String × Bool)) :
    outcomesOf host (e :: l) =
      if e.1 = host then e.2 :: outcomesOf host l else outcomesOf host l := by
  by_cases h : e.1 = host <;> simp [outcomesOf, h]

theorem outcomesOf_eq_nil {host : String} {l : List (String × Bool)}
    (h : host ∉ l.map (·.1)) : outcomesOf host l = [] := by
  rw [outcomesOf, List.map_eq_nil_iff, List.filter_eq_nil_iff]
  intro e he
  have hne : e.1 ≠ host := fun heq => h (List.mem_map.2 ⟨e, he, heq⟩)
  simpa using hne

theorem outcomesOf_ne_nil {host : String} {l : List (String × Bool)}
    (h : host ∈ l.map (·.1)) : outcomesOf host l ≠ [] := by
  obtain ⟨e, he, rfl⟩ := List.mem_map.1 h
  have hmem : e.2 ∈ outcomesOf e.1 l :=
    List.mem_map.2 ⟨e, List.mem_filter.2 ⟨he, by simp⟩, rfl⟩
  exact List.ne_nil_of_mem hmem

section Pass

variable {α : Type} [Scalar α]

theorem endPass_cons (t : TrackRecord) (e : String × Bool) (l : List (String × Bool)) :
    t.endPass (α := α) (e :: l) =
      (((t.record e.1 e.2).endPass (α := α) l).1,
        ⟨e.1, ((t.record e.1 e.2).window e.1).score α⟩ ::
          ((t.record e.1 e.2).endPass (α := α) l).2) := rfl

@[simp] theorem size_endPass (t : TrackRecord) (l : List (String × Bool)) :
    (t.endPass (α := α) l).1.size = t.size := by
  induction l generalizing t with
  | nil => rfl
  | cons e l ih => exact ih (t.record e.1 e.2)

/-- **At the end of a pass a host has taken its own outcomes and no others.** -/
theorem get?_endPass (t : TrackRecord) (l : List (String × Bool)) (host : String) :
    (t.endPass (α := α) l).1.windows.get? host =
      if outcomesOf host l = [] then t.windows.get? host
      else some ((t.window host).putAll (outcomesOf host l)) := by
  induction l generalizing t with
  | nil => simp [endPass, outcomesOf]
  | cons e l ih =>
    rw [endPass_cons, ih, get?_record, window_record, outcomesOf_cons]
    by_cases h : e.1 = host
    · subst h
      by_cases hl : outcomesOf e.1 l = [] <;> simp [hl, Window.putAll]
    · simp [h, Ne.symm h]

/-- The hosts scored are those of the list, in its order. -/
theorem hosts_endPass (t : TrackRecord) (l : List (String × Bool)) :
    (t.endPass (α := α) l).2.map (·.host) = l.map (·.1) := by
  induction l generalizing t with
  | nil => rfl
  | cons e l ih => simp [endPass_cons, ih]

end Pass

end TrackRecord

/-! ### Scores -/

namespace HostMap

variable {α : Type} [Scalar α]

/-- Of several scores of a host the last counts. -/
theorem scoreOf_cons (s : Score α) (scores : List (Score α)) (host : String) :
    scoreOf (s :: scores) host =
      if host ∈ scores.map (·.host) then scoreOf scores host
      else if s.host = host then s.value else Scalar.ofNat 0 := by
  simp only [scoreOf, List.reverse_cons, List.find?_append]
  cases hf : scores.reverse.find? (·.host = host) with
  | some r =>
    have hmem : r ∈ scores := List.mem_reverse.1 (List.mem_of_find?_eq_some hf)
    have hhost : r.host = host := by simpa using List.find?_some hf
    have hin : host ∈ scores.map (·.host) := List.mem_map.2 ⟨r, hmem, hhost⟩
    simp [hin]
  | none =>
    have hnot : host ∉ scores.map (·.host) := by
      intro hin
      obtain ⟨r, hr, hhost⟩ := List.mem_map.1 hin
      have := List.find?_eq_none.1 hf r (List.mem_reverse.2 hr)
      simp [hhost] at this
    by_cases hs : s.host = host <;> simp [hnot, hs]

end HostMap

namespace TrackRecord

section Scores

variable {α : Type} [Scalar α]

/-- **If no host occurs twice, a host is scored by the window it is left with.** -/
theorem scoreOf_endPass (t : TrackRecord) {l : List (String × Bool)}
    (hl : (l.map (·.1)).Nodup) {host : String} (hmem : host ∈ l.map (·.1)) :
    HostMap.scoreOf (t.endPass (α := α) l).2 host =
      ((t.endPass (α := α) l).1.window host).score α := by
  induction l generalizing t with
  | nil => simp at hmem
  | cons e l ih =>
    obtain ⟨hnot, hl'⟩ := List.nodup_cons.1 hl
    rw [endPass_cons, HostMap.scoreOf_cons, hosts_endPass]
    by_cases hin : host ∈ l.map (·.1)
    · rw [if_pos hin]
      exact ih (t.record e.1 e.2) hl' hin
    · have he : e.1 = host := by
        rcases List.mem_cons.1 hmem with h | h
        · exact h.symm
        · exact absurd h hin
      -- nothing is recorded for the host after its one outcome
      have hlast : ((t.record e.1 e.2).endPass (α := α) l).1.window host =
          (t.record e.1 e.2).window host := by
        rw [window, get?_endPass, outcomesOf_eq_nil hin, if_pos rfl, size_endPass]
        rfl
      rw [if_neg hin, if_pos he, hlast, he]

end Scores

/-! ### Soundness -/

/-- All windows are sound and of one size. -/
def IsSound (t : TrackRecord) : Prop :=
  ∀ host w, t.windows.get? host = some w → w.IsSound ∧ w.size = max t.size 1

theorem isSound_ofSize (size : Nat) : (ofSize size).IsSound := by
  intro host w h
  simp [ofSize] at h

namespace IsSound

variable {t : TrackRecord}

theorem window (h : t.IsSound) (host : String) :
    (t.window host).IsSound ∧ (t.window host).size = max t.size 1 := by
  rw [TrackRecord.window]
  cases hw : t.windows.get? host with
  | none => exact ⟨Window.isSound_ofSize t.size, Window.size_ofSize t.size⟩
  | some w => exact h host w hw

theorem startPass (h : t.IsSound) (hosts : List String) : (t.startPass hosts).IsSound := by
  intro host w hw
  rw [get?_startPass] at hw
  by_cases hmem : host ∈ hosts
  · rw [if_pos hmem] at hw
    exact h host w hw
  · rw [if_neg hmem] at hw
    cases hw

theorem endPass {α : Type} [Scalar α] (h : t.IsSound) (l : List (String × Bool)) :
    (t.endPass (α := α) l).1.IsSound := by
  intro host w hw
  rw [get?_endPass] at hw
  by_cases hl : outcomesOf host l = []
  · rw [if_pos hl] at hw
    simpa using h host w hw
  · rw [if_neg hl, Option.some_inj] at hw
    subst hw
    obtain ⟨hsound, hsize⟩ := h.window host
    exact ⟨hsound.putAll _, by simpa using hsize⟩

theorem pass {α : Type} [Scalar α] (h : t.IsSound) (hosts : List String)
    (outcomes : List Bool) : (t.pass (α := α) hosts outcomes).1.IsSound := by
  rw [TrackRecord.pass]
  cases isRanked hosts with
  | true => exact (h.startPass hosts).endPass _
  | false => exact h.startPass hosts

end IsSound

/-! ### A whole pass -/

section WholePass

variable {α : Type} [Scalar α] {hosts : List String} {outcomes : List Bool}

@[simp] theorem size_pass (t : TrackRecord) :
    (t.pass (α := α) hosts outcomes).1.size = t.size := by
  rw [pass]
  cases isRanked hosts <;> simp

/-- After a pass only hosts of its list have a window. -/
theorem mem_of_get?_pass {t : TrackRecord} {host : String} {w : Window}
    (h : (t.pass (α := α) hosts outcomes).1.windows.get? host = some w) : host ∈ hosts := by
  by_contra hnot
  have hstart : (t.startPass hosts).windows.get? host = none := by
    rw [get?_startPass, if_neg hnot]
  rw [pass] at h
  cases hr : isRanked hosts with
  | true =>
    have hzip : host ∉ (hosts.zip outcomes).map (·.1) := by
      intro hmem
      obtain ⟨e, he, rfl⟩ := List.mem_map.1 hmem
      exact hnot (List.of_mem_zip he).1
    rw [hr, if_pos rfl, get?_endPass, outcomesOf_eq_nil hzip, if_pos rfl, hstart] at h
    cases h
  | false =>
    rw [hr, if_neg Bool.false_ne_true, hstart] at h
    cases h

variable (hlen : outcomes.length = hosts.length)

include hlen

theorem map_fst_zip_outcomes : (hosts.zip outcomes).map (·.1) = hosts :=
  List.map_fst_zip (le_of_eq hlen.symm)

/-- A pass scores the hosts of its list. -/
theorem hosts_pass (t : TrackRecord) :
    (t.pass (α := α) hosts outcomes).2.map (·.host) = hosts := by
  rw [pass]
  cases isRanked hosts with
  | true => exact (hosts_endPass _ _).trans (map_fst_zip_outcomes hlen)
  | false => simp [Function.comp_def]

/-- After a pass over other than one host, each of them has a window. -/
theorem isSome_get?_pass (t : TrackRecord) (hone : hosts.length ≠ 1) {host : String}
    (hmem : host ∈ hosts) :
    ((t.pass (α := α) hosts outcomes).1.windows.get? host).isSome := by
  have hr : isRanked hosts = true := by simpa [isRanked] using hone
  have hout : outcomesOf host (hosts.zip outcomes) ≠ [] :=
    outcomesOf_ne_nil ((map_fst_zip_outcomes hlen).symm ▸ hmem)
  rw [pass, hr, if_pos rfl, get?_endPass, if_neg hout]
  rfl

/-- **After a pass over different hosts, other than one, each is scored by its window.** -/
theorem scoreOf_pass (t : TrackRecord) (hone : hosts.length ≠ 1) (hnodup : hosts.Nodup)
    {host : String} (hmem : host ∈ hosts) :
    HostMap.scoreOf (t.pass (α := α) hosts outcomes).2 host =
      ((t.pass (α := α) hosts outcomes).1.window host).score α := by
  have hr : isRanked hosts = true := by simpa [isRanked] using hone
  have hkeys := map_fst_zip_outcomes hlen
  rw [pass, hr, if_pos rfl]
  exact scoreOf_endPass _ (hkeys.symm ▸ hnodup) (hkeys.symm ▸ hmem)

end WholePass

end TrackRecord

end Courier
