import Courier.Proofs.Client.Building
import Courier.Proofs.Hosts.Comparison
import Courier.Proofs.Json.Reading

/-!
# Where the hosts in use come from

A host map comes into a directory from three sides, and what it brings stays until another map
is taken over: rankings only rearrange it.

| source | are blank hosts kept out? |
|---|---|
| the settings | yes, by a rule of the check |
| the user, who gives a map of his own | no |
| the server, whose reply is read | no |

Every operation **holds only** maps that came from there (`Courier.SharedDirectory.HoldsOnly`),
so every host in use stands in the settings or in a map that came with an event
(`Courier.SharedDirectory.hasOnly_isBrought`). As long as all of these have names, so have the
hosts in use.

The reading of a reply asks for nothing but a host for all paths. **Every host map can be sent**
(`Courier.Fetcher.ofBody_body`), one with blank hosts as well, and so the server can leave a
client whose settings are valid without a host that has a name
(`Courier.SharedDirectory.isNamed_iff_of_isValid`).
-/

namespace Courier

/-! ### Sending a host map -/

/-- The object that holds a host map, member by member. -/
def HostMap.members (m : HostMap) : List (String × Json) :=
  m.paths.entries.map fun e => (e.1, .array (e.2.map .string))

/-- The body that holds a host map. -/
def HostMap.body (m : HostMap) : Bytes := utf8 (Json.compact (.object m.members))

/-- **Every host map can be sent**, whatever its hosts are. -/
theorem Fetcher.ofBody_body (m : HostMap) : ofBody m.body = .found m := by
  have hne : m.members ≠ [] := by
    obtain ⟨best, others, hdefault⟩ := m.exists_default
    have hmem := Table.get?_eq_some_iff.1 hdefault
    simpa [HostMap.members] using List.ne_nil_of_mem hmem
  have hmembers : ∀ e ∈ m.members, Json.IsRead (Json.maxDepth - 1) e.2 := by
    rw [HostMap.members, List.forall_mem_map]
    exact fun e _ => Json.isRead_texts e.2
  have hpaths : (m.members.mapM fun e => (Json.texts? e.2).map fun l => (e.1, l))
      = some m.paths.entries := by
    rw [HostMap.members, List.mapM_map, ← Utf8.mapM_some m.paths.entries]
    congr 1
    funext e
    simp [Json.texts?_texts]
  have hread : HostMap.read? m.body = some m := by
    rw [HostMap.read?, HostMap.body, Json.readMembers?_compact hne hmembers, Option.bind_eq_bind,
      Option.bind_some, hpaths]
    simp only [Table.ofList_entries, HostMap.ofPaths, m.served, dif_pos]
  rw [ofBody, hread]

/-! ### Hosts with a name -/

namespace HostMap

/-- All hosts have a property. -/
def HasOnly (Q : String → Prop) (m : HostMap) : Prop := ∀ host ∈ m.distinct, Q host

/-- No host is blank. -/
def IsNamed (m : HostMap) : Prop := m.HasOnly fun host => trim host ≠ ""

/-- The best host of a path is one of the hosts. -/
theorem host_mem_distinct (m : HostMap) (path : String) : m.host path ∈ m.distinct := by
  obtain ⟨best, others, hdefault⟩ := m.exists_default
  have hbest : m.defaultHosts.headD "" ∈ m.distinct := by
    rw [defaultHosts, hdefault]
    exact mem_distinct.2 ⟨_, _, hdefault, List.mem_cons_self⟩
  rw [host]
  split
  next h rest hpath => exact mem_distinct.2 ⟨_, _, hpath, List.mem_cons_self⟩
  next => exact hbest

theorem SameUpToOrder.hasOnly_iff {m other : HostMap} (h : m.SameUpToOrder other)
    (Q : String → Prop) : m.HasOnly Q ↔ other.HasOnly Q :=
  forall_congr' fun host => by rw [h.mem_distinct_iff host]

theorem hasOnly_ranked {α : Type} [Scalar α] (m : HostMap) (scores : List (Score α))
    (Q : String → Prop) : (m.ranked scores).HasOnly Q ↔ m.HasOnly Q :=
  (m.sameUpToOrder_ranked scores).hasOnly_iff Q

/-- The host map of a blank host alone. -/
def blank : HostMap := ⟨Table.empty.insert defaultPath [" "], rfl⟩

theorem hasOnly_blank : blank.HasOnly fun host => trim host = "" := by
  intro host hhost
  rw [distinct, show blank.paths.values.flatten.eraseDups = [" "] from rfl,
    List.mem_singleton] at hhost
  rw [hhost]
  decide

/-- It is news to whoever has hosts with names. -/
theorem sameHosts_blank {m : HostMap} (h : m.IsNamed) : blank.sameHosts m = false := by
  obtain ⟨best, others, hdefault⟩ := m.exists_default
  rw [← Bool.not_eq_true, sameHosts_iff]
  intro hsame
  have hrel := hsame defaultPath
  rw [hdefault, show blank.paths.get? defaultPath = some [" "] from rfl] at hrel
  cases hrel with
  | some hsub =>
    have hbest : best = " " := List.mem_singleton.1 (hsub.2 List.mem_cons_self)
    refine h best (mem_distinct.2 ⟨_, _, hdefault, List.mem_cons_self⟩) ?_
    rw [hbest]
    decide

end HostMap

namespace SharedDirectory

variable {α : Type}

/-! ### Maps that operations hold -/

/-- The map given with an operation. -/
def Operation.maps : Operation → List HostMap
  | .rebase base => [base]
  | _ => []

/-- The map that an operation half way through holds. -/
def Stage.maps : Stage α → List HostMap
  | .queued fetched | .entered fetched => fetched.toList
  | .scoring base | .scored base _ => [base]
  | _ => []

/-- The map that comes with an event: given by the user or sent by the server. -/
def Event.maps : Event α → List HostMap
  | .call op => op.maps
  | .reply _ (.found base) => [base]
  | _ => []

theorem Stage.maps_admission (op : Operation) (d : Directory) (isRemote : Bool) :
    (admission op d isRemote : Stage α).maps = [] := by
  cases hd : d.isShut <;> cases op <;> cases isRemote <;> simp [admission, hd, maps]

/-- An operation goes on with the map in use, the one it was given, or the one it fetched. -/
theorem Stage.mem_maps_entry {op : Operation} {current : HostMap} {fetched : Option HostMap}
    {m : HostMap} (h : m ∈ (entry op current fetched : Stage α).maps) :
    m = current ∨ m ∈ op.maps ∨ m ∈ fetched.toList := by
  cases op with
  | rescore => exact Or.inl (List.mem_singleton.1 h)
  | rebase base => exact Or.inr (Or.inl h)
  | refresh =>
    cases fetched with
    | none => exact Or.inl (List.mem_singleton.1 h)
    | some base =>
      simp only [entry] at h
      split at h
      · cases h
      · exact Or.inr (Or.inr h)

/-- **All hosts at hand have the property**: those of the map in use, of the maps that operations
were given, and of those they hold half way through. -/
structure HoldsOnly (Q : String → Prop) (s : SharedDirectory α) : Prop where
  current : s.directory.current.HasOnly Q
  given : ∀ p ∈ s.processes, ∀ m ∈ p.operation.maps, m.HasOnly Q
  held : ∀ p ∈ s.processes, ∀ m ∈ p.stage.maps, m.HasOnly Q

section Steps

variable {Q : String → Prop} {s : SharedDirectory α}

/-- What one operation does keeps the property, if the map it holds afterwards has such hosts, and
the map in use. -/
theorem HoldsOnly.change (h : s.HoldsOnly Q) {s' : SharedDirectory α} {i : Nat} {p : Process α}
    {stage : Stage α} (hp : s.processes[i]? = some p)
    (hprocesses : s'.processes = s.processes.set i ⟨p.operation, stage⟩)
    (hheld : ∀ m ∈ stage.maps, m.HasOnly Q) (hcurrent : s'.directory.current.HasOnly Q) :
    s'.HoldsOnly Q where
  current := hcurrent
  given q hq m hm := by
    rw [hprocesses] at hq
    rcases List.mem_or_eq_of_mem_set hq with hq | rfl
    · exact h.given q hq m hm
    · exact h.given p (List.mem_of_getElem? hp) m hm
  held q hq m hm := by
    rw [hprocesses] at hq
    rcases List.mem_or_eq_of_mem_set hq with hq | rfl
    · exact h.held q hq m hm
    · exact hheld m hm

theorem HoldsOnly.put (h : s.HoldsOnly Q) {i : Nat} {p : Process α}
    (hp : s.processes[i]? = some p) {stage : Stage α}
    (hheld : ∀ m ∈ stage.maps, m.HasOnly Q) : (s.put i p.operation stage).HoldsOnly Q :=
  h.change hp rfl hheld h.current

theorem holdsOnly_start {d : Directory} (hcurrent : d.current.HasOnly Q) (isRemote : Bool) :
    (start d isRemote : SharedDirectory α).HoldsOnly Q where
  current := hcurrent
  given _ hp := absurd hp List.not_mem_nil
  held _ hp := absurd hp List.not_mem_nil

variable [Scalar α]

/-- **A step of an operation keeps the property**, from any stage: it has no hosts of its own. -/
theorem HoldsOnly.move (h : s.HoldsOnly Q) {i : Nat} {p : Process α}
    (hp : s.processes[i]? = some p) : (s.move i p.operation p.stage).HoldsOnly Q := by
  have hheld := h.held p (List.mem_of_getElem? hp)
  obtain ⟨op, stage⟩ := p
  cases stage with
  | called => exact h.put hp (by simp [Stage.maps_admission])
  | admitted => exact h.put hp (by simp [Stage.maps])
  | addressed host => exact h.put hp (by simp [Stage.maps])
  | asked host => exact h
  | queued fetched =>
    simp only [SharedDirectory.move]
    split
    · exact h.change hp rfl hheld h.current
    · exact h
  | entered fetched =>
    refine h.put hp fun m hm => ?_
    rcases Stage.mem_maps_entry hm with rfl | hgiven | hfetched
    · exact h.current
    · exact h.given _ (List.mem_of_getElem? hp) m hgiven
    · exact hheld m hfetched
  | scoring base => exact h
  | scored base scores =>
    have hbase := hheld base List.mem_cons_self
    rcases s.directory.adopt_eq_or base scores with heq | heq <;>
      simp only [SharedDirectory.move, SharedDirectory.adopt, heq]
    · exact h.change hp rfl (by simp [Stage.maps]) h.current
    · exact h.change hp rfl (by simp [Stage.maps]) ((base.hasOnly_ranked scores Q).2 hbase)
  | leaving answer => exact h.change hp rfl (by simp [Stage.maps]) h.current
  | finished answer => exact h

/-- **Every event keeps the property** that the hosts it comes with have. -/
theorem HoldsOnly.step (h : s.HoldsOnly Q) {e : Event α} (he : ∀ m ∈ e.maps, m.HasOnly Q) :
    (s.step e).HoldsOnly Q := by
  cases e with
  | call op =>
    refine ⟨h.current, fun p hp => ?_, fun p hp => ?_⟩ <;>
      rcases List.mem_append.1 hp with hp | hp
    · exact h.given p hp
    · rw [List.mem_singleton.1 hp]
      exact he
    · exact h.held p hp
    · rw [List.mem_singleton.1 hp]
      exact fun m hm => absurd hm List.not_mem_nil
  | shut => exact ⟨h.current, h.given, h.held⟩
  | move i =>
    simp only [SharedDirectory.step]
    cases hp : s.processes[i]? with
    | none => exact h
    | some p => exact h.move hp
  | reply i fetched =>
    simp only [SharedDirectory.step]
    split
    next op host hp =>
      refine h.put hp ?_
      cases fetched with
      | found base => exact he
      | notFound | rejected | exhausted => exact fun m hm => absurd hm List.not_mem_nil
    · exact h
  | score i scores =>
    simp only [SharedDirectory.step]
    split
    next op base hp => exact h.put hp (h.held _ (List.mem_of_getElem? hp))
    · exact h

/-- **Every schedule keeps the property** that all hosts have that come with its events. -/
theorem HoldsOnly.run (h : s.HoldsOnly Q) {events : List (Event α)}
    (hevents : ∀ e ∈ events, ∀ m ∈ e.maps, m.HasOnly Q) : (s.run events).HoldsOnly Q := by
  induction events generalizing s with
  | nil => exact h
  | cons e events ih =>
    rw [List.forall_mem_cons] at hevents
    exact ih (h.step hevents.1) hevents.2

end Steps

/-! ### Hosts in use -/

section Run

variable [Scalar α]

/-- A host was brought by somebody: it was there at the start, or it stands in a map that came
with an event. -/
def IsBrought (d : Directory) (events : List (Event α)) (host : String) : Prop :=
  host ∈ d.hosts ∨ ∃ e ∈ events, ∃ m ∈ e.maps, host ∈ m.distinct

/-- **Every host in use was brought by somebody.** -/
theorem hasOnly_isBrought (d : Directory) (isRemote : Bool) (events : List (Event α)) :
    ((start d isRemote).run events).directory.current.HasOnly (IsBrought d events) := by
  have hstart : (start d isRemote : SharedDirectory α).HoldsOnly (IsBrought d events) :=
    holdsOnly_start (fun host h => Or.inl h) isRemote
  exact (hstart.run fun e he m hm host h => Or.inr ⟨e, he, m, hm, h⟩).current

/-- The hosts in use have names exactly if those of the map last taken over have. -/
theorem isNamed_iff_baseAfter (d : Directory) (isRemote : Bool) (events : List (Event α)) :
    let s := (start d isRemote).run events
    s.directory.current.IsNamed ↔ (baseAfter d.current s.stores).IsNamed := by
  intro s
  have h : s.IsLocked d.current := (isLocked_start d isRemote).run events
  rw [h.current]
  exact h.history.sameUpToOrder.hasOnly_iff _

/-- **One refresh** brings a map with other hosts into use, as it is sent. -/
theorem directory_run_refresh {d : Directory} (hopen : d.isShut = false) {m : HostMap}
    (hother : m.sameHosts d.current = false) {scores : List (Score α)} (hscores : scores ≠ []) :
    ((start d true).run (alone 0 .refresh (Fetcher.ofBody m.body) scores)).directory
      = { d with current := m.ranked scores } := by
  have hrun := (run_alone (start d true) rfl .refresh (Fetcher.ofBody m.body) scores).1
  refine hrun.trans ?_
  rw [Fetcher.ofBody_body]
  dsimp only [start]
  rw [atOnce_refresh_found m hopen hscores, if_neg (by simp [hother])]

end Run

/-- **Whether hosts have names depends on where they come from.** The directory of valid settings
starts with the hosts of the settings, which all have names. From there on, in every schedule,

* every host in use stands in the settings or in a map that came with an event;
* all hosts in use have names exactly if those of the map last taken over have;
* they do if all maps that came with the events have such hosts, and then the best host of
  every path has a name.

But the server's reply is not looked at for names: **every** map with other hosts can be sent,
and one refresh brings it into use as it is. So there is a reply after which no host has a name. -/
theorem isNamed_iff_of_isValid (s : Settings) (hvalid : s.isValid = true) :
    ∃ d, Directory.ofHosts s.resolvedHosts s.fetcher = .ok d ∧ d.current.IsNamed ∧
      (∀ events : List (Event Binary64),
        let t := (start d s.fetcher.isSome).run events
        (∀ host ∈ t.directory.hosts,
            host ∈ s.resolvedHosts ∨ ∃ e ∈ events, ∃ m ∈ e.maps, host ∈ m.distinct) ∧
          (t.directory.current.IsNamed ↔ (baseAfter d.current t.stores).IsNamed) ∧
          ((∀ e ∈ events, ∀ m ∈ e.maps, m.IsNamed) →
            t.directory.current.IsNamed ∧ ∀ path, trim (t.directory.host path) ≠ "")) ∧
      (s.fetcher.isSome = true →
        (∀ m : HostMap, m.sameHosts d.current = false →
          ∀ scores : List (Score Binary64), scores ≠ [] →
            let t := (start d s.fetcher.isSome).run
              (alone 0 .refresh (Fetcher.ofBody m.body) scores)
            t.directory.current = m.ranked scores ∧
              ∀ Q, t.directory.current.HasOnly Q ↔ m.HasOnly Q) ∧
        ∃ m : HostMap, m.sameHosts d.current = false ∧ m.HasOnly fun host => trim host = "") := by
  have h : s.IsSound := s.isValid_iff_isSound.1 hvalid
  obtain ⟨d, hd, hopen, hpaths⟩ := h.exists_ofHosts
  have hhosts (host : String) : host ∈ d.current.distinct ↔ host ∈ s.resolvedHosts := by
    simp [HostMap.distinct, Table.values, hpaths]
  have hnamed : d.current.IsNamed := fun host hhost =>
    h.host_ne_blank host ((hhosts host).1 hhost)
  refine ⟨d, hd, hnamed, fun events => ⟨fun host hhost => ?_, ?_, fun hevents => ?_⟩,
    fun hremote => ⟨fun m hother scores hscores => ?_, ?_⟩⟩
  · rw [← hhosts host]
    exact hasOnly_isBrought d _ events host hhost
  · exact isNamed_iff_baseAfter d _ events
  · have hrun := (holdsOnly_start hnamed s.fetcher.isSome).run hevents
    exact ⟨hrun.current, fun path => hrun.current _ (HostMap.host_mem_distinct _ path)⟩
  · rw [hremote]
    dsimp only
    rw [directory_run_refresh hopen hother hscores]
    exact ⟨rfl, m.hasOnly_ranked scores⟩
  · exact ⟨HostMap.blank, HostMap.sameHosts_blank hnamed, HostMap.hasOnly_blank⟩

/-- A client of two hosts is left without a host that has a name. -/
theorem exists_refresh_blank :
    let s : Settings := {
      tenantId := "t", projectId := some "p", region := "r", hosts := ["a", "b"]
      auth := { accessKey := some "k", secretKey := some "l" } }
    let scores : List (Score Binary64) := [⟨" ", Scalar.ofNat 1⟩]
    s.isValid = true ∧ ∃ d, Directory.ofHosts s.resolvedHosts s.fetcher = .ok d ∧
      ∃ body : Bytes,
        let t := (start d s.fetcher.isSome).run (alone 0 .refresh (Fetcher.ofBody body) scores)
        ∀ path, trim (t.directory.host path) = "" := by
  intro s scores
  have hvalid : s.isValid = true := by decide
  obtain ⟨d, hd, -, -, hrefresh⟩ := isNamed_iff_of_isValid s hvalid
  obtain ⟨hsent, m, hother, hblank⟩ := hrefresh (by decide)
  refine ⟨hvalid, d, hd, m.body, fun path => ?_⟩
  obtain ⟨-, hhosts⟩ := hsent m hother scores (List.cons_ne_nil _ _)
  exact (hhosts _).2 hblank _ (HostMap.host_mem_distinct _ path)

end SharedDirectory

end Courier
