import Courier.Hosts.HostMap
import Courier.Proofs.Distinct
import Mathlib.Data.Option.Basic

/-!
# Ranking keeps the hosts

Ranking a host map changes nothing but the order inside its lists. Two maps that differ in
nothing else are the same **up to order** (`Courier.HostMap.SameUpToOrder`): they have the
same paths, and for each path the same hosts, each as often.

* `Courier.HostMap.sameUpToOrder_ranked` – a map and its ranking, whatever the scores are;
* `Courier.HostMap.pairwise_of_get?_ranked` – the lists of a ranking descend, as soon as the
  order of the scores is total and transitive;
* `Courier.HostMap.ranked_ranked` – so a second ranking by the same scores changes nothing;
* `Courier.HostMap.SameUpToOrder.mem_distinct_iff` – maps that are the same up to order have
  the same hosts.
-/

namespace Courier

namespace HostMap

theorem ext {m other : HostMap} (h : m.paths = other.paths) : m = other := by
  cases m
  cases other
  subst h
  rfl

/-- The same paths, and for each path the same hosts, each as often. -/
def SameUpToOrder (m other : HostMap) : Prop :=
  ∀ path, Option.Rel List.Perm (m.paths.get? path) (other.paths.get? path)

namespace SameUpToOrder

theorem refl (m : HostMap) : m.SameUpToOrder m := by
  intro path
  generalize m.paths.get? path = hosts
  cases hosts with
  | none => exact .none
  | some l => exact .some (List.Perm.refl l)

theorem symm {m other : HostMap} (h : m.SameUpToOrder other) : other.SameUpToOrder m := by
  intro path
  have hp := h path
  generalize m.paths.get? path = hosts at hp
  generalize other.paths.get? path = hosts' at hp
  cases hp with
  | none => exact .none
  | some hl => exact .some hl.symm

theorem trans {m₁ m₂ m₃ : HostMap} (h : m₁.SameUpToOrder m₂) (h' : m₂.SameUpToOrder m₃) :
    m₁.SameUpToOrder m₃ := by
  intro path
  have hp := h path
  have hp' := h' path
  generalize m₁.paths.get? path = hosts₁ at hp
  generalize m₂.paths.get? path = hosts₂ at hp hp'
  generalize m₃.paths.get? path = hosts₃ at hp'
  cases hp with
  | none => exact hp'
  | some hl =>
    cases hp' with
    | some hl' => exact .some (hl.trans hl')

end SameUpToOrder

/-! ### The hosts of a map -/

/-- The different hosts of a map are those of its lists. -/
theorem mem_distinct {m : HostMap} {host : String} :
    host ∈ m.distinct ↔ ∃ path hosts, m.paths.get? path = some hosts ∧ host ∈ hosts := by
  simp only [distinct, List.mem_eraseDups, List.mem_flatten, Table.mem_values]
  constructor
  · rintro ⟨hosts, ⟨path, hp⟩, hh⟩
    exact ⟨path, hosts, hp, hh⟩
  · rintro ⟨path, hosts, hp, hh⟩
    exact ⟨hosts, ⟨path, hp⟩, hh⟩

theorem nodup_distinct (m : HostMap) : m.distinct.Nodup := nodup_eraseDups _

/-- The list that stands for all paths has a best host. -/
theorem exists_default (m : HostMap) :
    ∃ best others, m.paths.get? defaultPath = some (best :: others) := by
  have h := m.served
  cases hp : m.paths.get? defaultPath with
  | none => simp [hp] at h
  | some hosts =>
    cases hosts with
    | nil => simp [hp] at h
    | cons best others => exact ⟨best, others, rfl⟩

theorem distinct_ne_nil (m : HostMap) : m.distinct ≠ [] := by
  obtain ⟨best, others, hp⟩ := m.exists_default
  have hmem : best ∈ m.distinct := mem_distinct.2 ⟨_, _, hp, by simp⟩
  exact List.ne_nil_of_mem hmem

/-- Maps that are the same up to order have the same hosts. -/
theorem SameUpToOrder.mem_distinct_iff {m other : HostMap} (h : m.SameUpToOrder other)
    (host : String) : host ∈ m.distinct ↔ host ∈ other.distinct := by
  have one : ∀ {m other : HostMap}, m.SameUpToOrder other → host ∈ m.distinct →
      host ∈ other.distinct := by
    intro m other h hm
    obtain ⟨path, hosts, hp, hh⟩ := mem_distinct.1 hm
    have hr := h path
    rw [hp] at hr
    generalize ho : other.paths.get? path = hosts' at hr
    cases hr with
    | some hl => exact mem_distinct.2 ⟨path, _, ho, hl.mem_iff.1 hh⟩
  exact ⟨one h, one h.symm⟩

/-- Maps that are the same up to order have as many different hosts. -/
theorem SameUpToOrder.length_distinct {m other : HostMap} (h : m.SameUpToOrder other) :
    m.distinct.length = other.distinct.length := by
  refine List.Perm.length_eq ?_
  rw [List.perm_ext_iff_of_nodup m.nodup_distinct other.nodup_distinct]
  exact h.mem_distinct_iff

/-! ### Ranking -/

section Ranking

variable {α : Type} [Scalar α]

theorem rankHosts_perm (scores : List (Score α)) (hosts : List String) :
    (rankHosts scores hosts).Perm hosts :=
  List.mergeSort_perm _ _

@[simp] theorem get?_ranked (m : HostMap) (scores : List (Score α)) (path : String) :
    (m.ranked scores).paths.get? path = (m.paths.get? path).map (rankHosts scores) := by
  simp [ranked, reorder]

/-- **Ranking changes nothing but the order**, whatever the scores are. -/
theorem sameUpToOrder_ranked (m : HostMap) (scores : List (Score α)) :
    (m.ranked scores).SameUpToOrder m := by
  intro path
  rw [get?_ranked]
  cases m.paths.get? path with
  | none => exact .none
  | some hosts => exact .some (rankHosts_perm scores hosts)

/-- A map and its ranking have the same hosts, as the comparison with the map in use has it. -/
theorem sameHosts_ranked (m : HostMap) (scores : List (Score α)) :
    m.sameHosts (m.ranked scores) = true := by
  have hlen : (m.ranked scores).paths.entries.length = m.paths.entries.length := by
    simp [ranked, reorder, Table.map]
  rw [sameHosts, hlen, decide_eq_true rfl, Bool.true_and, List.all_eq_true]
  rintro ⟨path, hosts⟩ hmem
  have hperm := rankHosts_perm scores hosts
  rw [get?_ranked, Table.get?_eq_some_iff.2 hmem]
  simp [hperm.length_eq, hperm.mem_iff]

/-- A ranked list descends. -/
theorem pairwise_rankHosts [LawfulScalar α] (scores : List (Score α)) (hosts : List String) :
    (rankHosts scores hosts).Pairwise fun a b =>
      Scalar.sortsBefore (scoreOf scores b) (scoreOf scores a) = true := by
  refine List.pairwise_mergeSort ?_ ?_ hosts
  · intro a b c hab hbc
    exact LawfulScalar.sortsBefore_trans _ _ _ hbc hab
  · intro a b
    exact LawfulScalar.sortsBefore_total _ _

/-- A ranked list is in order, so ranking it again by the same scores changes nothing. -/
theorem rankHosts_rankHosts [LawfulScalar α] (scores : List (Score α)) (hosts : List String) :
    rankHosts scores (rankHosts scores hosts) = rankHosts scores hosts :=
  List.mergeSort_of_pairwise (pairwise_rankHosts scores hosts)

/-- **Ranking twice by the same scores is ranking once.** -/
theorem ranked_ranked [LawfulScalar α] (m : HostMap) (scores : List (Score α)) :
    (m.ranked scores).ranked scores = m.ranked scores := by
  have hpaths : ((m.ranked scores).ranked scores).paths = (m.ranked scores).paths := by
    change (m.paths.map (rankHosts scores)).map (rankHosts scores) = m.paths.map (rankHosts scores)
    rw [Table.map_map]
    exact congrArg (m.paths.map ·) (funext (rankHosts_rankHosts scores))
  exact HostMap.ext hpaths

/-- **The lists of a ranking descend.** -/
theorem pairwise_of_get?_ranked [LawfulScalar α] {m : HostMap} {scores : List (Score α)}
    {path : String} {hosts : List String}
    (h : (m.ranked scores).paths.get? path = some hosts) :
    hosts.Pairwise fun a b =>
      Scalar.sortsBefore (scoreOf scores b) (scoreOf scores a) = true := by
  rw [get?_ranked] at h
  obtain ⟨unranked, -, rfl⟩ := Option.map_eq_some_iff.1 h
  exact pairwise_rankHosts scores unranked

end Ranking

end HostMap

end Courier
