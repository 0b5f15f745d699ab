import Courier.Hosts.Directory
import Courier.Proofs.Hosts.Ranking
import Courier.Proofs.Hosts.TrackRecord

/-!
# The lists show what the windows hold

A directory whose hosts are scored by pings, and by nothing else, is kept in two places: the
host map in use, and the windows of the track record. This file shows that the two **never
drift apart**, over any sequence of calls.

A call (`Courier.PingedDirectory.Call`) comes with what the outside answers while it runs: for
each host whether it is healthy when it is pinged, and for a refresh what came of fetching.
Scores are read over exact fractions.

| a call | what it does to both places |
|---|---|
| comes to a scoring pass over a base map | `Courier.PingedDirectory.scored` |
| does not | nothing |

That a call does one or the other is `Courier.PingedDirectory.step_eq_or`; all that follows
rests on it. One pass brings the two places into agreement
(`Courier.PingedDirectory.isRanked_scored`) **whatever they were before**, since it drops the
windows of all hosts it does not rank; and a call without a pass keeps the agreement, because
it changes neither.
-/

namespace Courier

/-- Wherever the two occur in a list, the first stands before the second. -/
def StandsBefore (l : List String) (a b : String) : Prop :=
  ∀ i j : Nat, l[i]? = some a → l[j]? = some b → i < j

/-- In a list in which related elements only follow each other, what must not follow stands
before. -/
theorem standsBefore_of_pairwise {R : String → String → Prop} {l : List String} {a b : String}
    (hl : l.Pairwise R) (hab : ¬ R b a) (hne : a ≠ b) : StandsBefore l a b := by
  intro i j hi hj
  obtain ⟨hi, rfl⟩ := List.getElem?_eq_some_iff.1 hi
  obtain ⟨hj, rfl⟩ := List.getElem?_eq_some_iff.1 hj
  rcases Nat.lt_trichotomy i j with h | h | h
  · exact h
  · subst h
    exact absurd rfl hne
  · exact absurd (List.pairwise_iff_getElem.1 hl j i _ _ h) hab

/-- A directory, the windows of its hosts, and how many scoring passes there were. -/
structure PingedDirectory where
  directory : Directory
  record : TrackRecord
  passes : Nat

namespace PingedDirectory

/-- A directory before the first call; no host has a window. -/
def start (d : Directory) (size : Nat) : PingedDirectory := ⟨d, .ofSize size, 0⟩

/-- A call, with the answers of the outside. -/
inductive Call where
  | rescore (isHealthy : String → Bool)
  | rebase (base : HostMap) (isHealthy : String → Bool)
  | refresh (fetched : Fetched) (isHealthy : String → Bool)

/-- A scoring pass by pings, and one pass more. -/
def score (isHealthy : String → Bool) (hosts : List String) :
    StateM (TrackRecord × Nat) (List (Score Rat)) := do
  let (t, passes) ← get
  let (t, scores) := t.pass hosts (hosts.map isHealthy)
  set (t, passes + 1)
  return scores

/-- What a call does to the directory. -/
def Call.run : Call → Directory → StateM (TrackRecord × Nat) Directory
  | .rescore isHealthy, d => Prod.fst <$> d.rescore (score isHealthy)
  | .rebase base isHealthy, d => Prod.fst <$> d.rebase (score isHealthy) base
  | .refresh fetched isHealthy, d =>
    Prod.fst <$> d.refresh (score isHealthy) (some fun _ => pure fetched)

/-- One call. -/
def step (s : PingedDirectory) (c : Call) : PingedDirectory :=
  let (d, t, passes) := (c.run s.directory).run (s.record, s.passes)
  ⟨d, t, passes⟩

/-- Calls in turn. -/
def after (s : PingedDirectory) (calls : List Call) : PingedDirectory := calls.foldl step s

/-- What a pass over a base map leaves. -/
def scored (s : PingedDirectory) (base : HostMap) (isHealthy : String → Bool) :
    PingedDirectory :=
  let (t, scores) := s.record.pass (α := Rat) base.distinct (base.distinct.map isHealthy)
  ⟨(s.directory.adopt base scores).1, t, s.passes + 1⟩

/-- In a directory that is shut no call changes anything. -/
theorem step_of_isShut {s : PingedDirectory} (hs : s.directory.isShut = true) (c : Call) :
    s.step c = s := by
  cases c with
  | rescore isHealthy =>
    simp only [step, Call.run, Directory.rescore, hs]
    rfl
  | rebase base isHealthy =>
    simp only [step, Call.run, Directory.rebase, hs]
    rfl
  | refresh fetched isHealthy =>
    simp only [step, Call.run, Directory.refresh, hs]
    rfl

theorem step_rescore {s : PingedDirectory} (hs : s.directory.isShut = false)
    (isHealthy : String → Bool) :
    s.step (.rescore isHealthy) = s.scored s.directory.current isHealthy := by
  simp only [step, Call.run, Directory.rescore, hs]
  rfl

theorem step_rebase {s : PingedDirectory} (hs : s.directory.isShut = false) (base : HostMap)
    (isHealthy : String → Bool) : s.step (.rebase base isHealthy) = s.scored base isHealthy := by
  simp only [step, Call.run, Directory.rebase, hs]
  rfl

/-- A refresh is a pass over the fetched map, if there is one with other hosts. -/
theorem step_refresh_found {s : PingedDirectory} (hs : s.directory.isShut = false)
    (base : HostMap) (isHealthy : String → Bool) :
    s.step (.refresh (.found base) isHealthy) =
      if base.sameHosts s.directory.current then s else s.scored base isHealthy := by
  simp only [step, Call.run, Directory.refresh, Directory.applyFetched, hs, pure_bind]
  cases base.sameHosts s.directory.current <;> rfl

theorem step_refresh_of_not_found {s : PingedDirectory} {fetched : Fetched}
    (hf : ∀ base, fetched ≠ .found base) (isHealthy : String → Bool) :
    s.step (.refresh fetched isHealthy) = s := by
  cases hs : s.directory.isShut with
  | true => exact step_of_isShut hs _
  | false =>
    simp only [step, Call.run, Directory.refresh, hs]
    cases fetched with
    | notFound | rejected | exhausted => rfl
    | found base => exact absurd rfl (hf base)

/-- **A call changes nothing, or it is one scoring pass.** -/
theorem step_eq_or (s : PingedDirectory) (c : Call) :
    s.step c = s ∨ ∃ base isHealthy, s.step c = s.scored base isHealthy := by
  cases hs : s.directory.isShut with
  | true => exact Or.inl (step_of_isShut hs c)
  | false =>
    cases c with
    | rescore isHealthy => exact Or.inr ⟨_, _, step_rescore hs isHealthy⟩
    | rebase base isHealthy => exact Or.inr ⟨_, _, step_rebase hs base isHealthy⟩
    | refresh fetched isHealthy =>
      cases fetched with
      | notFound | rejected | exhausted => exact Or.inl (step_refresh_of_not_found (by simp) _)
      | found base =>
        rw [step_refresh_found hs]
        cases base.sameHosts s.directory.current with
        | true => exact Or.inl rfl
        | false => exact Or.inr ⟨base, isHealthy, rfl⟩

/-! ### Agreement -/

/-- How many failures the window of a host holds, if it has a window. -/
def failures? (s : PingedDirectory) (host : String) : Option Nat :=
  (s.record.windows.get? host).map fun w => w.recent.count false

/-- **The lists show what the windows hold.** -/
structure IsRanked (s : PingedDirectory) : Prop where
  /-- A host with a window is in use. -/
  inUse : ∀ host, (s.failures? host).isSome → host ∈ s.directory.hosts
  /-- Of two or more hosts in use, each has a window. -/
  hasWindow : 2 ≤ s.directory.hosts.length → ∀ host ∈ s.directory.hosts,
    (s.failures? host).isSome
  /-- Fewer failures stand before more. -/
  fewerFirst : ∀ path hosts, s.directory.current.paths.get? path = some hosts →
    ∀ a b n k, s.failures? a = some n → s.failures? b = some k → n < k →
      StandsBefore hosts a b

section Scored

variable (s : PingedDirectory) (base : HostMap) (isHealthy : String → Bool)

theorem length_answers : (base.distinct.map isHealthy).length = base.distinct.length :=
  List.length_map isHealthy

/-- What a pass over a base map brings into use is its ranking, also where nothing is
replaced. -/
theorem current_scored : (s.scored base isHealthy).directory.current = base.ranked
    (s.record.pass (α := Rat) base.distinct (base.distinct.map isHealthy)).2 := by
  have hne : (s.record.pass (α := Rat) base.distinct (base.distinct.map isHealthy)).2 ≠ [] := by
    intro hnil
    have hhosts := TrackRecord.hosts_pass (α := Rat) (length_answers base isHealthy) s.record
    rw [hnil] at hhosts
    exact base.distinct_ne_nil hhosts.symm
  exact Directory.current_adopt s.directory base hne

/-- A pass leaves in use the hosts of its base map. -/
theorem sameUpToOrder_scored : (s.scored base isHealthy).directory.current.SameUpToOrder base := by
  rw [current_scored]
  exact base.sameUpToOrder_ranked _

theorem mem_distinct_of_failures? {host : String} {n : Nat}
    (h : (s.scored base isHealthy).failures? host = some n) : host ∈ base.distinct := by
  obtain ⟨w, hw, -⟩ := Option.map_eq_some_iff.1 h
  exact TrackRecord.mem_of_get?_pass hw

/-- After a pass over two or more hosts, the score of a host is higher the fewer failures its
window holds. -/
theorem sortsBefore_scoreOf_iff (hsound : s.record.IsSound) (hone : base.distinct.length ≠ 1)
    {a b : String} {n k : Nat} (ha : (s.scored base isHealthy).failures? a = some n)
    (hb : (s.scored base isHealthy).failures? b = some k) :
    Scalar.sortsBefore
      (HostMap.scoreOf
        (s.record.pass (α := Rat) base.distinct (base.distinct.map isHealthy)).2 a)
      (HostMap.scoreOf
        (s.record.pass (α := Rat) base.distinct (base.distinct.map isHealthy)).2 b) = true ↔
    k ≤ n := by
  have hlen := length_answers base isHealthy
  rw [TrackRecord.scoreOf_pass hlen s.record hone base.nodup_distinct
      (mem_distinct_of_failures? s base isHealthy ha),
    TrackRecord.scoreOf_pass hlen s.record hone base.nodup_distinct
      (mem_distinct_of_failures? s base isHealthy hb)]
  obtain ⟨w, hw, rfl⟩ := Option.map_eq_some_iff.1 ha
  obtain ⟨w', hw', rfl⟩ := Option.map_eq_some_iff.1 hb
  have hpass : (s.scored base isHealthy).record.IsSound := hsound.pass _ _
  obtain ⟨hws, hwsize⟩ := hpass a w hw
  obtain ⟨hws', hwsize'⟩ := hpass b w' hw'
  have hwin : (s.scored base isHealthy).record.window a = w := by
    rw [TrackRecord.window, hw, Option.getD_some]
  have hwin' : (s.scored base isHealthy).record.window b = w' := by
    rw [TrackRecord.window, hw', Option.getD_some]
  change Scalar.sortsBefore (((s.scored base isHealthy).record.window a).score Rat)
    (((s.scored base isHealthy).record.window b).score Rat) = true ↔ _
  rw [hwin, hwin', Window.sortsBefore_score_iff hws.size_pos (hwsize.trans hwsize'.symm),
    hws.failures_eq_count_recent, hws'.failures_eq_count_recent]

/-- **One pass brings lists and windows into agreement**, whatever they were before. -/
theorem isRanked_scored (hsound : s.record.IsSound) : (s.scored base isHealthy).IsRanked where
  inUse host h := by
    obtain ⟨n, hn⟩ := Option.isSome_iff_exists.1 h
    exact ((sameUpToOrder_scored s base isHealthy).mem_distinct_iff host).2
      (mem_distinct_of_failures? s base isHealthy hn)
  hasWindow htwo host hmem := by
    have hsame := sameUpToOrder_scored s base isHealthy
    have hone : base.distinct.length ≠ 1 := by
      have hlength : 2 ≤ base.distinct.length := hsame.length_distinct ▸ htwo
      omega
    have hwindow := TrackRecord.isSome_get?_pass (α := Rat) (length_answers base isHealthy)
      s.record hone ((hsame.mem_distinct_iff host).1 hmem)
    rw [failures?, Option.isSome_map]
    exact hwindow
  fewerFirst path hosts hpath a b n k ha hb hnk := by
    have hne : a ≠ b := by
      rintro rfl
      rw [ha, Option.some_inj] at hb
      omega
    have hone : base.distinct.length ≠ 1 := by
      -- a list of one host cannot hold two that differ
      intro hlength
      obtain ⟨host, hhost⟩ := List.length_eq_one_iff.1 hlength
      have hmema := mem_distinct_of_failures? s base isHealthy ha
      have hmemb := mem_distinct_of_failures? s base isHealthy hb
      rw [hhost, List.mem_singleton] at hmema hmemb
      exact hne (hmema.trans hmemb.symm)
    rw [current_scored] at hpath
    refine standsBefore_of_pairwise (HostMap.pairwise_of_get?_ranked hpath) ?_ hne
    rw [sortsBefore_scoreOf_iff s base isHealthy hsound hone ha hb]
    omega

end Scored

/-! ### Any sequence of calls -/

/-- What every sequence of calls keeps: the windows are sound, and after a pass the lists
show what they hold. -/
structure IsKept (s : PingedDirectory) : Prop where
  sound : s.record.IsSound
  ranked : 0 < s.passes → s.IsRanked

theorem isKept_start (d : Directory) (size : Nat) : (start d size).IsKept where
  sound := TrackRecord.isSound_ofSize size
  ranked h := absurd h (Nat.lt_irrefl 0)

theorem IsKept.step {s : PingedDirectory} (h : s.IsKept) (c : Call) : (s.step c).IsKept := by
  rcases s.step_eq_or c with heq | ⟨base, isHealthy, heq⟩
  · rw [heq]
    exact h
  · rw [heq]
    exact ⟨h.sound.pass _ _, fun _ => isRanked_scored s base isHealthy h.sound⟩

theorem IsKept.after {s : PingedDirectory} (h : s.IsKept) (calls : List Call) :
    (s.after calls).IsKept := by
  induction calls generalizing s with
  | nil => exact h
  | cons c calls ih => exact ih (h.step c)

/-- **From the first scoring pass on, the lists show what the windows hold**: over any
sequence of calls, with any answers of the outside, on any directory. -/
theorem isRanked_after (d : Directory) (size : Nat) (calls : List Call)
    (h : 0 < ((start d size).after calls).passes) : ((start d size).after calls).IsRanked :=
  ((isKept_start d size).after calls).ranked h

/-- Two hosts, a refresh without a map, and two passes that find different hosts healthy. -/
theorem isRanked_after_two_passes :
    ∃ d, Directory.ofHosts ["a", "b"] none = .ok d ∧
      ∃ s, s = (start d 3).after [.refresh .notFound (fun _ => true), .rescore (· = "b"),
        .rescore (· = "a")] ∧ 0 < s.passes ∧ s.IsRanked := by
  refine ⟨_, rfl, _, rfl, ?_⟩
  have hpos : 0 < ((start ⟨⟨Table.empty.insert defaultPath ["a", "b"], rfl⟩, false⟩ 3).after
      [.refresh .notFound (fun _ => true), .rescore (· = "b"), .rescore (· = "a")]).passes := by
    simp only [after, List.foldl_cons, List.foldl_nil]
    rw [step_refresh_of_not_found (by simp), step_rescore (s := start _ 3) rfl,
      step_rescore (by rw [scored]; exact Directory.isShut_adopt ..)]
    exact Nat.succ_pos _
  exact ⟨hpos, isRanked_after _ _ _ hpos⟩

end PingedDirectory

end Courier
