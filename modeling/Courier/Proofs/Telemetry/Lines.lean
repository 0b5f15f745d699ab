import Courier.Proofs.Telemetry.Grouping
import Courier.Proofs.Telemetry.Tags

/-!
# Lines that are told apart

A line of a report is known by its kind, its name and its tags. The samples are grouped by series,
and of a series the kind and the name are shown as they are, but the tags as they are read
(`Courier.SeriesKey.shown`). So lines are told apart exactly as far as **what is shown** tells
their series apart (`Courier.Aggregator.areToldApart_lines_iff`):

* the lines of one series differ in the word behind its name, and no name and word can be taken
  for others, since the word begins at the last dot (`Courier.Aggregator.append_suffix_inj`);
* two series of which the same is shown have all their lines alike.

Reading forgets some texts, so there are such series; but there are none among samples whose tags
are as they are meant (`Courier.Aggregator.areToldApart_iff_perm`).
-/

namespace Courier

/-- **No two lines are alike** in kind, name and tags. -/
def AreToldApart {α : Type} (lines : List (MetricRecord α)) : Prop :=
  lines.Pairwise fun r r' => ¬(r.kind = r'.kind ∧ r.name = r'.name ∧ r.tags = r'.tags)

/-- What a line is known by. -/
def MetricRecord.identity {α : Type} (r : MetricRecord α) : MetricKind × String × Table String :=
  (r.kind, r.name, r.tags)

theorem areToldApart_iff_nodup {α : Type} {lines : List (MetricRecord α)} :
    AreToldApart lines ↔ (lines.map MetricRecord.identity).Nodup := by
  rw [List.Nodup, List.pairwise_map]
  simp only [AreToldApart, MetricRecord.identity, ne_eq, Prod.mk.injEq]

/-- What is shown of a series. -/
def SeriesKey.shown (k : SeriesKey) : MetricKind × String × Table String :=
  (k.kind, k.name, Tag.parse k.tags)

namespace Aggregator

/-! ### The lines of one series -/

/-- What the lines of a series add to its name. -/
def suffixes : MetricKind → List String
  | .counter => [""]
  | .timer => Statistic.all.map fun s => "." ++ s.name
  | .store => [""]

theorem nodup_suffixes (kind : MetricKind) : (suffixes kind).Nodup := by
  cases kind <;> decide +kernel

theorem suffixes_ne_nil (kind : MetricKind) : suffixes kind ≠ [] := by
  cases kind <;> decide

/-- **A name and a word behind it** are known from the name of the line. -/
theorem append_suffix_inj {kind : MetricKind} {a b s t : String} (hs : s ∈ suffixes kind)
    (ht : t ∈ suffixes kind) (h : a ++ s = b ++ t) : a = b ∧ s = t := by
  have hsingle (hs : s ∈ [""]) (ht : t ∈ [""]) : a = b ∧ s = t := by
    obtain rfl := List.mem_singleton.1 hs
    obtain rfl := List.mem_singleton.1 ht
    exact ⟨by simpa using h, rfl⟩
  cases kind with
  | counter => exact hsingle hs ht
  | store => exact hsingle hs ht
  | timer =>
    have hdot : ∀ x ∈ Statistic.all, '.' ∉ x.name.toList := by decide +kernel
    obtain ⟨x, hx, rfl⟩ := List.mem_map.1 hs
    obtain ⟨y, hy, rfl⟩ := List.mem_map.1 ht
    rw [← String.append_assoc, ← String.append_assoc] at h
    obtain ⟨hab, hxy⟩ := append_inj_of_notMem_right rfl (hdot x hx) (hdot y hy) h
    exact ⟨hab, congrArg ("." ++ ·) hxy⟩

/-- What the lines of a series are known by. -/
def identities (namePrefix : String) (k : SeriesKey) : List (MetricKind × String × Table String) :=
  (suffixes k.kind).map fun s => (k.kind, namePrefix ++ "." ++ k.name ++ s, Tag.parse k.tags)

theorem nodup_identities (namePrefix : String) (k : SeriesKey) :
    (identities namePrefix k).Nodup := by
  refine (nodup_suffixes k.kind).map_on fun s hs t ht h => ?_
  simp only [Prod.mk.injEq, true_and, and_true] at h
  exact (append_suffix_inj hs ht h).2

/-- **Two series have a line in common**, as far as lines are known, exactly if the same is shown
of them. -/
theorem disjoint_identities_iff {namePrefix : String} {k k' : SeriesKey} :
    (identities namePrefix k).Disjoint (identities namePrefix k') ↔ k.shown ≠ k'.shown := by
  constructor
  · intro h hshown
    have hsame : identities namePrefix k = identities namePrefix k' := by
      simp only [SeriesKey.shown, Prod.mk.injEq] at hshown
      obtain ⟨hkind, hname, htags⟩ := hshown
      rw [identities, identities, hkind, hname, htags]
    have hne : identities namePrefix k ≠ [] := mt List.map_eq_nil_iff.1 (suffixes_ne_nil k.kind)
    obtain ⟨i, hi⟩ := List.exists_mem_of_ne_nil _ hne
    exact h hi (hsame ▸ hi)
  · intro hshown i hi hi'
    obtain ⟨s, hs, rfl⟩ := List.mem_map.1 hi
    obtain ⟨t, ht, h⟩ := List.mem_map.1 hi'
    simp only [Prod.mk.injEq] at h
    obtain ⟨hkind, hname, htags⟩ := h
    rw [hkind] at ht
    obtain ⟨hname, -⟩ := append_suffix_inj ht hs hname
    have hcut : k'.name = k.name := by
      have hchars := congrArg String.toList hname
      simp only [String.toList_append] at hchars
      exact String.toList_inj.1 (List.append_cancel_left hchars)
    exact hshown (by rw [SeriesKey.shown, SeriesKey.shown, hkind, hcut, htags])

/-! ### The lines of a report -/

section Report

variable {α : Type} [Scalar α]

/-- All lines of a report on samples. -/
def lines (l : List (MetricEvent α)) (namePrefix : String) (timestamp : Nat) :
    List (MetricRecord α) :=
  let drained := (empty.addAll l).drain namePrefix timestamp
  drained.1 ++ drained.2.1

theorem map_fst_reported (kind : MetricKind) {values : List α} (h : values ≠ []) :
    (reported kind values).map (·.1) = suffixes kind := by
  cases kind with
  | counter => rfl
  | timer =>
    have hne := Scalar.ascending_ne_nil h
    rw [reported, statistics, if_neg (by simpa using hne), List.map_map, List.map_map]
    rfl
  | store =>
    rw [reported, List.getLast?_eq_some_getLast h]
    rfl

theorem map_identity_recordsOf (l : List (MetricEvent α)) (kind : MetricKind) (namePrefix : String)
    (timestamp : Nat) :
    ((empty.addAll l).recordsOf kind namePrefix timestamp).map MetricRecord.identity
      = (seriesOfKind l kind).flatMap (identities namePrefix) := by
  rw [recordsOf_addAll, List.map_flatMap]
  refine List.flatMap_congr fun k hk => ?_
  obtain rfl : k.kind = kind := by simpa using (List.mem_filter.1 hk).2
  rw [identities, ← map_fst_reported k.kind (valuesOf_ne_nil hk), List.map_map, List.map_map]
  rfl

omit [Scalar α] in
/-- Each series is of one of the three kinds. -/
theorem seriesOfKind_append_perm (l : List (MetricEvent α)) :
    (seriesOfKind l .counter ++ (seriesOfKind l .timer ++ seriesOfKind l .store)).Perm
      (seriesOf l) := by
  let isOf (kind : MetricKind) (k : SeriesKey) : Bool := k.kind = kind
  refine .trans (.append_left _ ?_) (List.filter_append_perm (isOf .counter) (seriesOf l))
  refine .trans (.of_eq ?_) (List.filter_append_perm (isOf .timer) _)
  rw [seriesOfKind, seriesOfKind, List.filter_filter, List.filter_filter]
  congr 1 <;> refine List.filter_congr fun k _ => ?_ <;> cases hk : k.kind <;> simp [isOf, hk]

theorem map_identity_lines_perm (l : List (MetricEvent α)) (namePrefix : String)
    (timestamp : Nat) :
    ((lines l namePrefix timestamp).map MetricRecord.identity).Perm
      ((seriesOf l).flatMap (identities namePrefix)) := by
  refine .trans (.of_eq ?_) ((seriesOfKind_append_perm l).flatMap_right _)
  rw [lines, drain]
  simp only [List.map_append, map_identity_recordsOf, List.flatMap_append]

/-- **The lines of a report are told apart as far as what is shown tells the series apart.** -/
theorem areToldApart_lines_iff (l : List (MetricEvent α)) (namePrefix : String)
    (timestamp : Nat) :
    AreToldApart (lines l namePrefix timestamp)
      ↔ ∀ k ∈ seriesOf l, ∀ k' ∈ seriesOf l, k.shown = k'.shown → k = k' := by
  have hparts : ((seriesOf l).flatMap (identities namePrefix)).Nodup
      ↔ ((seriesOf l).map SeriesKey.shown).Nodup := by
    rw [List.nodup_flatMap, and_iff_right fun k _ => nodup_identities namePrefix k, List.Nodup,
      List.pairwise_map]
    exact List.Pairwise.iff fun _ _ => disjoint_identities_iff
  rw [areToldApart_iff_nodup, (map_identity_lines_perm l namePrefix timestamp).nodup_iff, hparts]
  exact List.nodup_map_iff_inj_on (nodup_seriesOf l)

/-- **When a report says the same of two series**: exactly if there are samples of one kind and
name in whose tags the same is read, though they are not the same tags in another order. There are
none among samples whose tags are as they are meant, whatever they are; but a text that is not
read, or is there already, makes another series of which the same is shown. -/
theorem areToldApart_iff_perm (l : List (MetricEvent α)) (namePrefix : String)
    (timestamp : Nat) :
    let areApart (l : List (MetricEvent α)) := AreToldApart (lines l namePrefix timestamp)
    (areApart l ↔ ∀ e ∈ l, ∀ e' ∈ l, e.kind = e'.kind → e.name = e'.name →
        Tag.parse (sortedByText id e.tags) = Tag.parse (sortedByText id e'.tags) →
          e.tags.Perm e'.tags)
      ∧ ((∀ e ∈ l, ∃ entries, Tag.AreProper e.tags entries) → areApart l)
      ∧ ∀ e : MetricEvent α, ∀ t, ':' ∉ t.toList ∨ t ∈ e.tags →
        ¬areApart [e, { e with tags := t :: e.tags }] := by
  intro areApart
  have hiff (l : List (MetricEvent α)) : areApart l ↔ ∀ e ∈ l, ∀ e' ∈ l,
      e.kind = e'.kind → e.name = e'.name →
        Tag.parse (sortedByText id e.tags) = Tag.parse (sortedByText id e'.tags) →
          e.tags.Perm e'.tags := by
    refine (areToldApart_lines_iff l namePrefix timestamp).trans ⟨fun h => ?_, fun h => ?_⟩
    · intro e he e' he' hkind hname hparse
      have hshown : e.key.shown = e'.key.shown := by
        rw [SeriesKey.shown, SeriesKey.shown, MetricEvent.key, MetricEvent.key, hkind, hname]
        exact congrArg (e'.kind, e'.name, ·) hparse
      have hkey := h e.key (mem_seriesOf.2 ⟨e, he, rfl⟩) e'.key (mem_seriesOf.2 ⟨e', he', rfl⟩)
        hshown
      exact (MetricEvent.key_eq_key_iff.1 hkey).2.2
    · intro k hk k' hk' hshown
      obtain ⟨e, he, rfl⟩ := mem_seriesOf.1 hk
      obtain ⟨e', he', rfl⟩ := mem_seriesOf.1 hk'
      simp only [SeriesKey.shown, Prod.mk.injEq] at hshown
      obtain ⟨hkind, hname, hparse⟩ := hshown
      exact MetricEvent.key_eq_key_iff.2 ⟨hkind, hname, h e he e' he' hkind hname hparse⟩
  refine ⟨hiff l, fun hproper => (hiff l).2 fun e he e' he' _ _ hparse => ?_, fun e t ht h => ?_⟩
  · obtain ⟨entries, h⟩ := hproper e he
    obtain ⟨entries', h'⟩ := hproper e' he'
    exact h.perm_of_parse_eq h' hparse
  · have hparse : Tag.parse (sortedByText id e.tags) = Tag.parse (sortedByText id (t :: e.tags)) :=
      (ht.elim (Tag.parse_sorted_cons_of_notMem · _) Tag.parse_sorted_cons_of_mem).symm
    have hperm := (hiff _).1 h e (by simp) { e with tags := t :: e.tags } (by simp) rfl rfl hparse
    simpa using hperm.length_eq

end Report

end Aggregator

end Courier
