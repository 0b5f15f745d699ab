import Courier.Proofs.Hosts.Answers
import Courier.Proofs.Hosts.Overtaking
import Mathlib.Data.Fintype.EquivFin
import Mathlib.Data.List.Duplicate
import Mathlib.Data.List.Perm.Subperm

/-!
# When two host maps have the same hosts

A server's host map is news only if it has other hosts than the one in use, whatever their
order. The comparison (`Courier.HostMap.sameHosts`) reads lists, though, and for each path it
checks two things: that the lists are of the same length, and that the hosts of the second are
all in the first.

| the second list | the comparison says |
|---|---|
| names each host once | nothing but the truth: the sets are the same |
| names a host twice | yes to some list of other hosts as well |

The first line is counting: a list without repetitions that lies in another of its length fills
it (`mem_iff_of_subset`). For the second line the repetition gives way to a new host
(`exists_of_not_nodup`). So the comparison can be trusted **exactly if** the map in use names
hosts once (`Courier.HostMap.NamesOnce`), and a refresh finds all news exactly then
(`Courier.SharedDirectory.namesOnce_iff_refresh`).
-/

namespace Courier

namespace HostMap

/-! ### Path by path -/

/-- The same paths, and a relation between the lists of each. -/
def Pathwise (R : List String → List String → Prop) (m other : HostMap) : Prop :=
  ∀ path, Option.Rel R (m.paths.get? path) (other.paths.get? path)

variable {R : List String → List String → Prop} {m other : HostMap}

theorem pathwise_iff : m.Pathwise R other ↔
    (∀ path, (m.paths.get? path).isSome = (other.paths.get? path).isSome) ∧
      ∀ path hosts hosts', m.paths.get? path = some hosts →
        other.paths.get? path = some hosts' → R hosts hosts' := by
  rw [Pathwise, ← forall_and]
  refine forall_congr' fun path => ?_
  cases m.paths.get? path <;> cases other.paths.get? path <;> simp

/-- Maps with as many paths have the same paths, if the one has all paths of the other. -/
theorem isSome_get?_eq (hlen : m.paths.entries.length = other.paths.entries.length)
    (hsub : m.paths.keys ⊆ other.paths.keys) (path : String) :
    (m.paths.get? path).isSome = (other.paths.get? path).isSome := by
  have hperm : m.paths.keys.Perm other.paths.keys := by
    refine (List.subperm_of_subset m.paths.nodup_keys hsub).perm_of_length_le ?_
    simp [Table.keys, hlen]
  rw [Bool.eq_iff_iff, ← Table.mem_keys, ← Table.mem_keys, hperm.mem_iff]

theorem length_entries_eq
    (h : ∀ path, (m.paths.get? path).isSome = (other.paths.get? path).isSome) :
    m.paths.entries.length = other.paths.entries.length := by
  have hperm : m.paths.keys.Perm other.paths.keys := by
    rw [List.perm_ext_iff_of_nodup m.paths.nodup_keys other.paths.nodup_keys]
    intro path
    rw [Table.mem_keys, Table.mem_keys, h path]
  simpa [Table.keys] using hperm.length_eq

/-- **What the comparison decides**: the same paths, and for each of them lists of the same
length, the second of which has no hosts but those of the first. -/
theorem sameHosts_iff : m.sameHosts other = true ↔
    m.Pathwise (fun hosts hosts' => hosts'.length = hosts.length ∧ hosts' ⊆ hosts) other := by
  rw [sameHosts, Bool.and_eq_true, decide_eq_true_iff, List.all_eq_true, pathwise_iff]
  constructor
  · rintro ⟨hlen, hall⟩
    have hsub : m.paths.keys ⊆ other.paths.keys := by
      intro path hpath
      obtain ⟨hosts, hm⟩ := Option.isSome_iff_exists.1 (Table.mem_keys.1 hpath)
      have h := hall _ (Table.get?_eq_some_iff.1 hm)
      rw [Table.mem_keys]
      cases ho : other.paths.get? path with
      | none => simp [ho] at h
      | some hosts' => rfl
    refine ⟨isSome_get?_eq hlen hsub, fun path hosts hosts' hm ho => ?_⟩
    have h := hall _ (Table.get?_eq_some_iff.1 hm)
    simpa [ho, List.subset_def] using h
  · rintro ⟨hpaths, hR⟩
    refine ⟨length_entries_eq hpaths, ?_⟩
    rintro ⟨path, hosts⟩ hmem
    have hm := Table.get?_eq_some_iff.2 hmem
    have hsome := hpaths path
    rw [hm, Option.isSome_some, eq_comm, Option.isSome_iff_exists] at hsome
    obtain ⟨hosts', ho⟩ := hsome
    simpa [ho, List.subset_def] using hR path hosts hosts' hm ho

/-! ### Lists that name a host once -/

/-- For each path the same set of hosts. -/
def SameSets (m other : HostMap) : Prop :=
  m.Pathwise (fun hosts hosts' => ∀ host, host ∈ hosts ↔ host ∈ hosts') other

/-- No list names a host twice. -/
def NamesOnce (m : HostMap) : Prop :=
  ∀ path hosts, m.paths.get? path = some hosts → hosts.Nodup

/-- **A list that names each host once fills all of another as long as it**, if it has no other
hosts. -/
theorem mem_iff_of_subset {hosts hosts' : List String} (honce : hosts'.Nodup)
    (hlen : hosts'.length = hosts.length) (hsub : hosts' ⊆ hosts) (host : String) :
    host ∈ hosts ↔ host ∈ hosts' := by
  have hperm := (List.subperm_of_subset honce hsub).perm_of_length_le hlen.ge
  exact hperm.mem_iff.symm

/-- A map that names hosts once is not taken for one with other hosts. -/
theorem sameSets_of_sameHosts (hother : other.NamesOnce) (h : m.sameHosts other = true) :
    m.SameSets other := by
  rw [sameHosts_iff, pathwise_iff] at h
  refine pathwise_iff.2 ⟨h.1, fun path hosts hosts' hm ho => ?_⟩
  obtain ⟨hlen, hsub⟩ := h.2 path hosts hosts' hm ho
  exact mem_iff_of_subset (hother path hosts' ho) hlen hsub

/-- **Between maps that name hosts once, the comparison is one of sets.** -/
theorem sameHosts_iff_of_namesOnce (hm : m.NamesOnce) (hother : other.NamesOnce) :
    m.sameHosts other = true ↔ m.SameSets other := by
  refine ⟨sameSets_of_sameHosts hother, fun h => ?_⟩
  rw [SameSets, pathwise_iff] at h
  refine sameHosts_iff.2 (pathwise_iff.2 ⟨h.1, fun path hosts hosts' hpath hpath' => ?_⟩)
  have hmem := h.2 path hosts hosts' hpath hpath'
  have hperm : hosts'.Perm hosts := by
    rw [List.perm_ext_iff_of_nodup (hother path hosts' hpath') (hm path hosts hpath)]
    exact fun host => (hmem host).symm
  exact ⟨hperm.length_eq, hperm.subset⟩

theorem SameSets.symm (h : m.SameSets other) : other.SameSets m := by
  rw [SameSets, pathwise_iff] at h ⊢
  exact ⟨fun path => (h.1 path).symm,
    fun path hosts hosts' ho hm host => (h.2 path hosts' hosts hm ho host).symm⟩

theorem sameHosts_comm (hm : m.NamesOnce) (hother : other.NamesOnce) :
    m.sameHosts other = other.sameHosts m := by
  rw [Bool.eq_iff_iff, sameHosts_iff_of_namesOnce hm hother, sameHosts_iff_of_namesOnce hother hm]
  exact ⟨SameSets.symm, SameSets.symm⟩

/-! ### Lists that name a host twice -/

/-- **In a list that names a host twice there is room for another**: as long a list has all its
hosts and one more. -/
theorem exists_of_not_nodup {hosts : List String} (h : ¬ hosts.Nodup) :
    ∃ others : List String, ∃ host ∈ others, host ∉ hosts ∧
      hosts.length = others.length ∧ hosts ⊆ others := by
  obtain ⟨twice, htwice⟩ := List.exists_duplicate_iff_not_nodup.2 h
  obtain ⟨host, hhost⟩ := Infinite.exists_notMem_finset hosts.toFinset
  rw [List.mem_toFinset] at hhost
  have hkept : twice ∈ hosts.erase twice := by
    have hcount := List.duplicate_iff_two_le_count.1 htwice
    rw [← List.count_pos_iff, List.count_erase_self]
    omega
  refine ⟨host :: hosts.erase twice, host, List.mem_cons_self, hhost, ?_, fun other hother => ?_⟩
  · have hpos := List.length_pos_of_mem htwice.mem
    rw [List.length_cons, List.length_erase_of_mem htwice.mem]
    omega
  · by_cases heq : other = twice
    · exact List.mem_cons_of_mem host (heq ▸ hkept)
    · exact List.mem_cons_of_mem host ((List.mem_erase_of_ne heq).2 hother)

/-- The map with another list for a path. -/
def withList (m : HostMap) (path : String) {hosts : List String} (h : hosts ≠ []) : HostMap where
  paths := m.paths.insert path hosts
  served := by
    rw [Table.get?_insert]
    split
    · simpa using h
    · exact m.served

/-- **A map that names a host twice is taken for one with other hosts.** -/
theorem exists_sameHosts_of_not_namesOnce (h : ¬ other.NamesOnce) :
    ∃ m : HostMap, m.sameHosts other = true ∧ ¬ m.SameSets other := by
  simp only [NamesOnce, not_forall] at h
  obtain ⟨path, hosts, hpath, htwice⟩ := h
  obtain ⟨others, host, hmem, hnot, hlen, hsub⟩ := exists_of_not_nodup htwice
  have hget (j : String) : (other.withList path (List.ne_nil_of_mem hmem)).paths.get? j
      = if j = path then some others else other.paths.get? j :=
    Table.get?_insert other.paths path j others
  refine ⟨other.withList path (List.ne_nil_of_mem hmem), ?_, fun hsame => ?_⟩
  · refine sameHosts_iff.2 fun j => ?_
    rw [hget]
    by_cases hj : j = path
    · rw [if_pos hj, hj, hpath]
      exact .some ⟨hlen, hsub⟩
    · rw [if_neg hj]
      cases other.paths.get? j with
      | none => exact .none
      | some l => exact .some ⟨rfl, List.Subset.refl l⟩
  · have h := hsame path
    rw [hget, if_pos rfl, hpath] at h
    cases h with
    | some hiff => exact hnot ((hiff host).1 hmem)

end HostMap

/-! ### Refreshing -/

namespace SharedDirectory

section Refresh

variable {α : Type} [Scalar α] {d : Directory} {scores : List (Score α)}

/-- **What a refresh does with a fetched map** is decided by the comparison alone, once there
are scores. -/
theorem atOnce_refresh_found (base : HostMap) (hopen : d.isShut = false) (hscores : scores ≠ []) :
    Operation.refresh.atOnce d true (.found base) scores =
      if base.sameHosts d.current then (d, .refreshed .unchanged)
      else ({ d with current := base.ranked scores }, .refreshed .applied) := by
  rw [Operation.atOnce_refresh _ _ hopen]
  cases hsame : base.sameHosts d.current with
  | true => simp [hsame]
  | false =>
    simp only [hsame, Bool.false_eq_true, if_false]
    rw [d.adopt_of_otherHosts hscores hsame]
    rfl

end Refresh

/-- **The comparison and what a refresh makes of it**, for every host map in use.

* It compares paths, lengths and hosts in one direction.
* Where both maps name hosts once this is to compare sets, and the order of the maps does not
  matter.
* It never takes a map for one with other hosts exactly if the map in use names hosts once.
* A refresh takes every map with other hosts into use exactly if the map in use names hosts
  once; otherwise there is one that it discards. -/
theorem namesOnce_iff_refresh (current : HostMap) :
    (∀ m : HostMap, m.sameHosts current = true ↔ m.Pathwise (fun hosts hosts' =>
        hosts'.length = hosts.length ∧ hosts' ⊆ hosts) current) ∧
      (current.NamesOnce → ∀ m : HostMap, m.NamesOnce →
        (m.sameHosts current = true ↔ m.SameSets current) ∧
          m.sameHosts current = current.sameHosts m) ∧
      (current.NamesOnce ↔ ∀ m : HostMap, m.sameHosts current = true → m.SameSets current) ∧
      (current.NamesOnce ↔ ∀ base : HostMap, ¬ base.SameSets current →
        ∀ scores : List (Score Binary64), scores ≠ [] →
          Operation.refresh.atOnce ⟨current, false⟩ true (.found base) scores =
            (⟨base.ranked scores, false⟩, .refreshed .applied)) := by
  have hrefresh (base : HostMap) {scores : List (Score Binary64)} (hscores : scores ≠ []) :=
    atOnce_refresh_found (d := ⟨current, false⟩) base rfl hscores
  refine ⟨fun m => HostMap.sameHosts_iff, fun honce m hm => ?_, ⟨?_, ?_⟩, ⟨?_, ?_⟩⟩
  · exact ⟨HostMap.sameHosts_iff_of_namesOnce hm honce, HostMap.sameHosts_comm hm honce⟩
  · exact fun honce m => HostMap.sameSets_of_sameHosts honce
  · intro hall
    by_contra htwice
    obtain ⟨m, hsame, hother⟩ := HostMap.exists_sameHosts_of_not_namesOnce htwice
    exact hother (hall m hsame)
  · intro honce base hother scores hscores
    have hnews : ¬ base.sameHosts current = true :=
      fun h => hother (HostMap.sameSets_of_sameHosts honce h)
    rw [hrefresh base hscores, if_neg hnews]
  · intro hall
    by_contra htwice
    obtain ⟨m, hsame, hother⟩ := HostMap.exists_sameHosts_of_not_namesOnce htwice
    have hscores : [⟨"", Scalar.ofNat 0⟩] ≠ ([] : List (Score Binary64)) := by simp
    have h := hall m hother _ hscores
    rw [hrefresh m hscores, if_pos hsame] at h
    cases (Prod.mk.inj h).2

/-- One of the two hosts in use is gone, and the other is named twice in its place. -/
example :
    let current : HostMap := ⟨Table.empty.insert defaultPath ["a", "b"], rfl⟩
    let base : HostMap := ⟨Table.empty.insert defaultPath ["a", "a"], rfl⟩
    base.sameHosts current = false ∧ current.sameHosts base = true := by
  decide

end SharedDirectory

end Courier
