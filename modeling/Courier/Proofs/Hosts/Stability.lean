import Courier.Proofs.Hosts.Ranking
import Courier.Proofs.Number.TotalOrder
import Courier.Proofs.Sorted

/-!
# Which ranking a scoring pass gives

Scores order the hosts of a path only in part: hosts may share a score, and a host may stand in
a list more than once. The ranking is settled nevertheless
(`Courier.HostMap.isRankingOf_iff_and_ranked_ranked`), as the only map that

* has the same paths, and for each path the same hosts, each as often
  (`IsRankedList.perm`);
* has in each list the scores in descending order (`IsRankedList.descending`), where the order
  is the total one and the score of a host is the last one given for it, or positive zero
  (`IsScoreOf`);
* has the hosts of one score in the order in which they were (`IsRankedList.stable`).

So hosts change places only where their scores ask for it, and ranking again by the same scores
changes nothing.
-/

namespace Courier.HostMap

/-! ### Scores -/

/-- The score of a host: the last one given for it, and positive zero if none is given. -/
inductive IsScoreOf (scores : List (Score Binary64)) (host : String) : Binary64 → Prop
  | given {before after : List (Score Binary64)} {x : Binary64}
      (h : scores = before ++ ⟨host, x⟩ :: after) (hlast : ∀ s ∈ after, s.host ≠ host) :
      IsScoreOf scores host x
  | missing (h : ∀ s ∈ scores, s.host ≠ host) : IsScoreOf scores host ⟨0⟩

/-- **The score that ranking looks up.** -/
theorem isScoreOf_scoreOf (scores : List (Score Binary64)) (host : String) :
    IsScoreOf scores host (scoreOf scores host) := by
  unfold scoreOf
  cases hfind : scores.reverse.find? (·.host = host) with
  | none =>
    have hzero : (Scalar.ofNat 0 : Binary64) = ⟨0⟩ := by decide
    rw [List.find?_eq_none] at hfind
    rw [hzero]
    exact .missing fun s hs => by simpa using hfind s (List.mem_reverse.2 hs)
  | some s =>
    obtain ⟨hhost, after, before, hrev, hlast⟩ := List.find?_eq_some_iff_append.1 hfind
    obtain ⟨host', x⟩ := s
    obtain rfl : host' = host := by simpa using hhost
    have hscores : scores = before.reverse ++ ⟨host', x⟩ :: after.reverse := by
      rw [← List.reverse_reverse scores, hrev]
      simp
    exact .given hscores fun s hs => by simpa using hlast s (List.mem_reverse.1 hs)

/-- A host has one score, the one that ranking looks up. -/
theorem scoreOf_eq_iff {scores : List (Score Binary64)} {host : String} {x : Binary64} :
    scoreOf scores host = x ↔ IsScoreOf scores host x := by
  constructor
  · rintro rfl
    exact isScoreOf_scoreOf scores host
  · intro h
    unfold scoreOf
    cases h with
    | @given before after x h hlast =>
      have hfind : scores.reverse.find? (·.host = host) = some ⟨host, x⟩ := by
        refine List.find?_eq_some_iff_append.2 ⟨by simp, after.reverse, before.reverse, ?_, ?_⟩
        · simp [h]
        · simpa using hlast
      rw [hfind]
    | missing h =>
      have hfind : scores.reverse.find? (·.host = host) = none := by
        simpa using h
      rw [hfind]
      decide

/-! ### Ranked lists -/

/-- What it is to be the ranking of a list of hosts. -/
structure IsRankedList (scores : List (Score Binary64)) (hosts ranked : List String) : Prop where
  /-- The same hosts, each as often. -/
  perm : ranked.Perm hosts
  /-- The scores descend. -/
  descending : ranked.Pairwise fun a b => (scoreOf scores b).Precedes (scoreOf scores a)
  /-- Hosts that share a score keep their order. -/
  stable : ∀ x, ranked.filter (scoreOf scores · = x) = hosts.filter (scoreOf scores · = x)

/-- The key by which hosts are ranked: the greater the score, the less the key. -/
def rankKey (scores : List (Score Binary64)) (host : String) : Int := -(scoreOf scores host).key

theorem rankHosts_eq_sortedBy (scores : List (Score Binary64)) (hosts : List String) :
    rankHosts scores hosts = sortedBy (rankKey scores) hosts := by
  have hbefore : (fun a b => Scalar.sortsBefore (scoreOf scores b) (scoreOf scores a))
      = fun a b => decide (rankKey scores a ≤ rankKey scores b) := by
    funext a b
    exact decide_eq_decide.2 Int.neg_le_neg_iff.symm
  rw [rankHosts, hbefore, sortedBy]

theorem rankKey_le_rankKey_iff {scores : List (Score Binary64)} {a b : String} :
    rankKey scores a ≤ rankKey scores b ↔ (scoreOf scores b).Precedes (scoreOf scores a) := by
  rw [← Binary64.sortsBefore_iff]
  exact Int.neg_le_neg_iff.trans decide_eq_true_iff.symm

/-- Hosts have the same key if they have the same score. -/
theorem rankKey_eq_iff {scores : List (Score Binary64)} {host : String} {x : Binary64} :
    rankKey scores host = -x.key ↔ scoreOf scores host = x := by
  unfold rankKey
  rw [Int.neg_inj]
  exact ⟨Binary64.key_injective, congrArg _⟩

/-- **A list of hosts has one ranking.** -/
theorem isRankedList_iff {scores : List (Score Binary64)} {hosts ranked : List String} :
    IsRankedList scores hosts ranked ↔ ranked = rankHosts scores hosts := by
  constructor
  · intro h
    rw [rankHosts_eq_sortedBy, eq_sortedBy_iff]
    refine ⟨h.descending.imp rankKey_le_rankKey_iff.2, fun k => ?_⟩
    by_cases hk : ∃ x : Binary64, -x.key = k
    · obtain ⟨x, rfl⟩ := hk
      simpa only [rankKey_eq_iff] using h.stable x
    · -- a key that belongs to no score is that of no host
      have hnone : ∀ l : List String, l.filter (rankKey scores · = k) = [] := by
        intro l
        rw [List.filter_eq_nil_iff]
        intro host _ hkey
        exact hk ⟨scoreOf scores host, of_decide_eq_true hkey⟩
      rw [hnone, hnone]
  · intro h
    obtain ⟨hdescending, hstable⟩ :=
      eq_sortedBy_iff.1 (h.trans (rankHosts_eq_sortedBy scores hosts))
    refine ⟨.trans (.of_eq h) (rankHosts_perm scores hosts),
      hdescending.imp rankKey_le_rankKey_iff.1, fun x => ?_⟩
    simpa only [rankKey_eq_iff] using hstable (-x.key)

/-! ### Ranked maps -/

/-- What it is to be the ranking of a map: the same paths, each with its list ranked. -/
def IsRankingOf (scores : List (Score Binary64)) (m ranked : HostMap) : Prop :=
  ∀ path, Option.Rel (IsRankedList scores) (m.paths.get? path) (ranked.paths.get? path)

/-- **A map has one ranking**, and a score is the last one given or positive zero; ranking the
map again by the same scores changes nothing. -/
theorem isRankingOf_iff_and_ranked_ranked (m : HostMap) (scores : List (Score Binary64)) :
    (∀ ranked, IsRankingOf scores m ranked ↔ ranked = m.ranked scores) ∧
      (∀ host x, scoreOf scores host = x ↔ IsScoreOf scores host x) ∧
      (m.ranked scores).ranked scores = m.ranked scores := by
  refine ⟨fun ranked => ?_, fun host x => scoreOf_eq_iff, ranked_ranked m scores⟩
  constructor
  · intro h
    refine HostMap.ext (Table.ext_get? fun path => ?_)
    have hpath := h path
    rw [get?_ranked]
    generalize m.paths.get? path = hosts at hpath ⊢
    generalize ranked.paths.get? path = hosts' at hpath ⊢
    cases hpath with
    | none => rfl
    | some hl => rw [Option.map_some, isRankedList_iff.1 hl]
  · rintro rfl path
    rw [get?_ranked]
    cases m.paths.get? path with
    | none => exact .none
    | some hosts => exact .some (isRankedList_iff.2 rfl)

end Courier.HostMap
