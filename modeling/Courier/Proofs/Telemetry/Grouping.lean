import Courier.Number.Binary64
import Courier.Proofs.Distinct
import Courier.Proofs.Text.Sorted
import Courier.Telemetry.Aggregator
import Mathlib.Data.List.Induction
import Mathlib.Data.List.Perm.Basic

/-!
# Samples by their series

Samples arrive in any order, and those of different series between each other. What is
reported of them depends only on **the values of each series in their order**
(`Courier.valuesOf`):

| kind | lines of a series |
|---|---|
| counter | one, the sum from the left and starting at zero |
| timer | seven, the statistics of the sorted values |
| store | one, the last value |

The whole of it rests on one equation, `Courier.Aggregator.series_addAll`: after any samples the
aggregator holds each series once, with the values of its samples in their order. The lists of
lines are compared up to order, for in which order series are reported is not promised.
-/

namespace Courier

/-! ### Series among samples -/

section Series

variable {α : Type}

/-- **Two samples belong to one series** exactly if they agree in kind and name and have the
same tags in any order. -/
theorem MetricEvent.key_eq_key_iff {e e' : MetricEvent α} :
    e.key = e'.key ↔ e.kind = e'.kind ∧ e.name = e'.name ∧ e.tags.Perm e'.tags := by
  rw [← sortedByText_id_eq_iff, key, key, SeriesKey.mk.injEq]
  rfl

/-- The samples of a series, in their order. -/
def samplesIn (l : List (MetricEvent α)) (k : SeriesKey) : List (MetricEvent α) :=
  l.filter (·.key = k)

/-- The values of a series, in their order. -/
def valuesOf (l : List (MetricEvent α)) (k : SeriesKey) : List α :=
  (samplesIn l k).map (·.value)

/-- The series that samples belong to, each once. -/
def seriesOf (l : List (MetricEvent α)) : List SeriesKey := (l.map (·.key)).eraseDups

/-- The series of a kind. -/
def seriesOfKind (l : List (MetricEvent α)) (kind : MetricKind) : List SeriesKey :=
  (seriesOf l).filter (·.kind = kind)

theorem nodup_seriesOf (l : List (MetricEvent α)) : (seriesOf l).Nodup := nodup_eraseDups _

theorem mem_seriesOf {l : List (MetricEvent α)} {k : SeriesKey} :
    k ∈ seriesOf l ↔ ∃ e ∈ l, e.key = k := by
  rw [seriesOf, List.mem_eraseDups, List.mem_map]

/-- A series is among samples exactly if it has a value. -/
theorem mem_seriesOf_iff_valuesOf_ne_nil {l : List (MetricEvent α)} {k : SeriesKey} :
    k ∈ seriesOf l ↔ valuesOf l k ≠ [] := by
  rw [mem_seriesOf, valuesOf, samplesIn, Ne, List.map_eq_nil_iff, List.filter_eq_nil_iff]
  simp

/-- One more sample begins a series or is the last of one. -/
theorem seriesOf_concat (l : List (MetricEvent α)) (e : MetricEvent α) :
    seriesOf (l ++ [e]) = if e.key ∈ seriesOf l then seriesOf l else seriesOf l ++ [e.key] := by
  have hmem : e.key ∈ seriesOf l ↔ e.key ∈ l.map (·.key) := by rw [seriesOf, List.mem_eraseDups]
  rw [seriesOf, List.map_append, List.eraseDups_append, ← seriesOf]
  by_cases h : e.key ∈ seriesOf l
  · have hold : e.key ∈ l.map (·.key) := hmem.1 h
    simp [h, List.removeAll, List.mem_map.1 hold]
  · have hnew : e.key ∉ l.map (·.key) := mt hmem.2 h
    rw [if_neg h, List.map_singleton, List.removeAll, List.filter_cons_of_pos (by simpa using hnew),
      List.filter_nil]
    rfl

theorem valuesOf_concat_self (l : List (MetricEvent α)) (e : MetricEvent α) :
    valuesOf (l ++ [e]) e.key = valuesOf l e.key ++ [e.value] := by
  simp [valuesOf, samplesIn]

theorem valuesOf_concat_of_ne {l : List (MetricEvent α)} {e : MetricEvent α} {k : SeriesKey}
    (h : e.key ≠ k) : valuesOf (l ++ [e]) k = valuesOf l k := by
  simp [valuesOf, samplesIn, h]

/-- The samples of some series, each given once, are the samples that belong to one of them. -/
theorem flatMap_samplesIn_perm (l : List (MetricEvent α)) {ks : List SeriesKey} (h : ks.Nodup) :
    (ks.flatMap (samplesIn l)).Perm (l.filter fun e => e.key ∈ ks) := by
  induction ks with
  | nil => simp
  | cons k ks ih =>
    obtain ⟨hk, hks⟩ := List.nodup_cons.1 h
    -- those of the first series, and of the others, are told apart by that series alone
    have hfirst : samplesIn l k
        = (l.filter fun e => e.key ∈ k :: ks).filter (·.key = k) := by
      rw [List.filter_filter, samplesIn]
      refine List.filter_congr fun e _ => ?_
      by_cases hek : e.key = k <;> simp [hek]
    have hothers : (l.filter fun e => e.key ∈ ks)
        = (l.filter fun e => e.key ∈ k :: ks).filter fun e => !decide (e.key = k) := by
      rw [List.filter_filter]
      refine List.filter_congr fun e _ => ?_
      by_cases hek : e.key = k
      · simp [hek, hk]
      · simp [hek]
    rw [List.flatMap_cons, hfirst]
    refine ((ih hks).append_left _).trans ?_
    rw [hothers]
    exact List.filter_append_perm _ _

/-- **No sample is lost, or counted in two series**: the samples of all series together are the
samples. -/
theorem flatMap_samplesIn_seriesOf_perm (l : List (MetricEvent α)) :
    ((seriesOf l).flatMap (samplesIn l)).Perm l := by
  have hall : (l.filter fun e => e.key ∈ seriesOf l) = l :=
    List.filter_eq_self.2 fun e he => decide_eq_true (mem_seriesOf.2 ⟨e, he, rfl⟩)
  exact (flatMap_samplesIn_perm l (nodup_seriesOf l)).trans (.of_eq hall)

/-- Samples with the same values of each series belong to the same series. -/
theorem seriesOf_perm {l l' : List (MetricEvent α)} (h : ∀ k, valuesOf l k = valuesOf l' k) :
    (seriesOf l).Perm (seriesOf l') := by
  refine (List.perm_ext_iff_of_nodup (nodup_seriesOf l) (nodup_seriesOf l')).2 fun k => ?_
  rw [mem_seriesOf_iff_valuesOf_ne_nil, mem_seriesOf_iff_valuesOf_ne_nil, h k]

/-- The same sample, its tags in any order. -/
structure SameUpToTags (e e' : MetricEvent α) : Prop where
  kind : e.kind = e'.kind
  name : e.name = e'.name
  value : e.value = e'.value
  tags : e.tags.Perm e'.tags

/-- **The same samples as far as reports go**: each with its tags in any order, and those of
different series between each other in any way. -/
def SameSamples (l l' : List (MetricEvent α)) : Prop :=
  ∃ m, List.Forall₂ SameUpToTags l m ∧ ∀ k, samplesIn m k = samplesIn l' k

theorem valuesOf_eq_of_forall₂ {l l' : List (MetricEvent α)} (h : List.Forall₂ SameUpToTags l l')
    (k : SeriesKey) : valuesOf l k = valuesOf l' k := by
  induction h with
  | nil => rfl
  | @cons e e' l l' he _ ih =>
    have hkey : e.key = e'.key := MetricEvent.key_eq_key_iff.2 ⟨he.kind, he.name, he.tags⟩
    have hcons (e : MetricEvent α) (l) : valuesOf (e :: l) k
        = (if e.key = k then [e.value] else []) ++ valuesOf l k := by
      by_cases hek : e.key = k <;> simp [valuesOf, samplesIn, hek]
    rw [hcons, hcons, ih, hkey, he.value]

theorem SameSamples.valuesOf_eq {l l' : List (MetricEvent α)} (h : SameSamples l l')
    (k : SeriesKey) : valuesOf l k = valuesOf l' k := by
  obtain ⟨m, hm, hsamples⟩ := h
  rw [valuesOf_eq_of_forall₂ hm, valuesOf, valuesOf, hsamples]

end Series

namespace Aggregator

variable {α : Type}

/-! ### What an aggregator holds -/

/-- A value goes to its series, wherever the series stands, or begins one at the end. -/
theorem addValue_map {k : SeriesKey} {v : α} {f g : SeriesKey → List α} {ks : List SeriesKey}
    (hks : ks.Nodup) (hnew : k ∉ ks → f k = []) (hself : g k = f k ++ [v])
    (hother : ∀ j, j ≠ k → g j = f j) :
    addValue k v (ks.map fun j => (j, f j))
      = (if k ∈ ks then ks else ks ++ [k]).map fun j => (j, g j) := by
  induction ks with
  | nil => simp [addValue, hself, hnew]
  | cons j ks ih =>
    obtain ⟨hj, hks⟩ := List.nodup_cons.1 hks
    by_cases hkj : k = j
    · subst hkj
      have hrest : (ks.map fun i => (i, f i)) = ks.map fun i => (i, g i) :=
        List.map_congr_left fun i hi => by rw [hother i fun e => hj (e ▸ hi)]
      simp [addValue, hself, hrest]
    · have hstep := ih hks fun h => hnew (by simp [hkj, h])
      rw [List.map_cons, addValue, if_neg hkj, hstep, ← hother j (Ne.symm hkj)]
      by_cases hmem : k ∈ ks <;> simp [hkj, hmem]

/-- **After any samples**, an aggregator holds each series once, with its values in their
order. -/
theorem series_addAll (l : List (MetricEvent α)) :
    (empty.addAll l).series = (seriesOf l).map fun k => (k, valuesOf l k) := by
  induction l using List.reverseRecOn with
  | nil => rfl
  | append_singleton l e ih =>
    have hstep : (empty.addAll (l ++ [e])).series
        = addValue e.key e.value (empty.addAll l).series := by
      rw [addAll, List.foldl_append]
      rfl
    rw [hstep, ih, seriesOf_concat]
    refine addValue_map (nodup_seriesOf l) (fun h => ?_) (valuesOf_concat_self l e)
      fun k hk => valuesOf_concat_of_ne (Ne.symm hk)
    exact not_not.1 (mt mem_seriesOf_iff_valuesOf_ne_nil.2 h)

/-! ### What is reported -/

/-- A line about a series. -/
def line (namePrefix : String) (timestamp : Nat) (k : SeriesKey) (suffix : String) (value : α) :
    MetricRecord α where
  name := namePrefix ++ "." ++ k.name ++ suffix
  value := value
  kind := k.kind
  timestamp := timestamp
  tags := Tag.parse k.tags

variable [Scalar α]

/-- The sum of values, from the left and starting at zero. -/
def total (values : List α) : α := values.foldl Scalar.add (Scalar.ofNat 0)

/-- The last of some values. -/
def latest (values : List α) : α := values.getLastD (Scalar.ofNat 0)

/-- The seven statistics of values in ascending order, with what they add to the name of
their series. -/
def statisticLines (sorted : List α) : List (String × α) :=
  let share (hundredths : Nat) : α := Scalar.div (Scalar.ofNat hundredths) (Scalar.ofNat 100)
  [(".max", sorted.getLastD (Scalar.ofNat 0)),
    (".min", sorted.headD (Scalar.ofNat 0)),
    (".avg", Scalar.div (sorted.tail.foldl Scalar.add (sorted.headD (Scalar.ofNat 0)))
      (Scalar.ofNat sorted.length)),
    (".pct75", percentile sorted (share 75)), (".pct90", percentile sorted (share 90)),
    (".pct95", percentile sorted (share 95)), (".pct99", percentile sorted (share 99))]

/-- **What samples come to** when they are reported: which lines there are of counters and of
the other series, and what is left. -/
structure IsReportOf (l : List (MetricEvent α)) (namePrefix : String) (timestamp : Nat)
    (drained : List (MetricRecord α) × List (MetricRecord α) × Aggregator α) : Prop where
  counters : drained.1.Perm ((seriesOfKind l .counter).map fun k =>
    line namePrefix timestamp k "" (total (valuesOf l k)))
  general : drained.2.1.Perm
    ((seriesOfKind l .timer).flatMap (fun k =>
        (statisticLines (Scalar.ascending (valuesOf l k))).map fun s =>
          line namePrefix timestamp k s.1 s.2)
      ++ (seriesOfKind l .store).map fun k =>
        line namePrefix timestamp k "" (latest (valuesOf l k)))
  left : drained.2.2 = empty

/-- Reports on samples with the same values of each series have the same lines. -/
theorem IsReportOf.perm {l l' : List (MetricEvent α)} {namePrefix : String} {timestamp : Nat}
    {drained drained' : List (MetricRecord α) × List (MetricRecord α) × Aggregator α}
    (h : IsReportOf l namePrefix timestamp drained)
    (h' : IsReportOf l' namePrefix timestamp drained')
    (hvalues : ∀ k, valuesOf l k = valuesOf l' k) :
    drained.1.Perm drained'.1 ∧ drained.2.1.Perm drained'.2.1 := by
  have hkind (kind : MetricKind) : (seriesOfKind l kind).Perm (seriesOfKind l' kind) :=
    (seriesOf_perm hvalues).filter _
  have hcounters := h'.counters
  have hgeneral := h'.general
  rw [← (funext hvalues : valuesOf l = valuesOf l')] at hcounters hgeneral
  constructor
  · exact (h.counters.trans ((hkind .counter).map _)).trans hcounters.symm
  · refine (h.general.trans (List.Perm.append ?_ ?_)).trans hgeneral.symm
    · exact (hkind .timer).flatMap_right _
    · exact (hkind .store).map _

variable (l : List (MetricEvent α)) (namePrefix : String) (timestamp : Nat)

theorem recordsOf_addAll (kind : MetricKind) :
    (empty.addAll l).recordsOf kind namePrefix timestamp
      = (seriesOfKind l kind).flatMap fun k =>
          (reported kind (valuesOf l k)).map fun r => line namePrefix timestamp k r.1 r.2 := by
  rw [recordsOf, series_addAll, List.filter_map, List.flatMap_map, seriesOfKind]
  refine List.flatMap_congr fun k hk => ?_
  have hkind : k.kind = kind := by simpa using (List.mem_filter.1 hk).2
  simp only [records, line, hkind]

/-- The statistics that are reported, if there are values at all. -/
theorem map_statistics {sorted : List α} (h : sorted ≠ []) :
    (statistics sorted).map (fun s => ("." ++ s.1.name, s.2)) = statisticLines sorted := by
  rw [statistics, if_neg (by simpa using h)]
  rfl

omit [Scalar α] in
/-- A series that samples belong to has a value. -/
theorem valuesOf_ne_nil {l : List (MetricEvent α)} {kind : MetricKind} {k : SeriesKey}
    (h : k ∈ seriesOfKind l kind) : valuesOf l k ≠ [] :=
  mem_seriesOf_iff_valuesOf_ne_nil.1 (List.mem_filter.1 h).1

theorem isReportOf_drain :
    IsReportOf l namePrefix timestamp ((empty.addAll l).drain namePrefix timestamp) where
  counters := by
    dsimp only [drain]
    rw [recordsOf_addAll, List.map_eq_flatMap]
    exact .of_eq (List.flatMap_congr fun k _ => rfl)
  general := by
    dsimp only [drain]
    rw [recordsOf_addAll, recordsOf_addAll]
    refine .of_eq (congrArg₂ _ (List.flatMap_congr fun k hk => ?_) ?_)
    · rw [reported, map_statistics (Scalar.ascending_ne_nil (valuesOf_ne_nil hk))]
    · rw [List.map_eq_flatMap]
      refine List.flatMap_congr fun k hk => ?_
      rw [reported, latest, List.getLast?_eq_some_getLast (valuesOf_ne_nil hk),
        List.getLastD_eq_getLast?, List.getLast?_eq_some_getLast (valuesOf_ne_nil hk)]
      rfl
  left := rfl

/-- **A report on samples**, which an aggregator was given in turn: its lines say of each series
what the values of the series come to; every sample belongs to exactly one of the series, which
are told apart by kind, name and sorted tags; and neither the order of tags nor how the series
are mixed makes a difference. -/
theorem isReportOf_drain_addAll (l : List (MetricEvent Binary64)) (namePrefix : String)
    (timestamp : Nat) :
    let drained (l : List (MetricEvent Binary64)) := (empty.addAll l).drain namePrefix timestamp
    IsReportOf l namePrefix timestamp (drained l)
      ∧ (∀ k, (Scalar.ascending (valuesOf l k)).Perm (valuesOf l k)
        ∧ (Scalar.ascending (valuesOf l k)).Pairwise fun x y => x.key ≤ y.key)
      ∧ (seriesOf l).Nodup ∧ ((seriesOf l).flatMap (samplesIn l)).Perm l
      ∧ (∀ e : MetricEvent Binary64,
        e.key = ⟨e.kind, e.name, e.tags.mergeSort fun a b => a ≤ b⟩)
      ∧ (∀ e e' : MetricEvent Binary64,
        e.key = e'.key ↔ e.kind = e'.kind ∧ e.name = e'.name ∧ e.tags.Perm e'.tags)
      ∧ ∀ l', SameSamples l l' →
        (drained l).1.Perm (drained l').1 ∧ (drained l).2.1.Perm (drained l').2.1 := by
  intro drained
  have hsorted (values : List Binary64) :
      (Scalar.ascending values).Pairwise fun x y => x.key ≤ y.key := by
    have h := List.pairwise_mergeSort LawfulScalar.sortsBefore_trans
      LawfulScalar.sortsBefore_total values
    exact h.imp fun hxy => of_decide_eq_true hxy
  refine ⟨isReportOf_drain l namePrefix timestamp,
    fun k => ⟨List.mergeSort_perm _ _, hsorted _⟩, nodup_seriesOf l,
    flatMap_samplesIn_seriesOf_perm l, fun e => rfl, fun e e' => MetricEvent.key_eq_key_iff,
    fun l' h => ?_⟩
  exact (isReportOf_drain l namePrefix timestamp).perm (isReportOf_drain l' namePrefix timestamp)
    h.valuesOf_eq

end Aggregator

end Courier
