import Courier.Hosts.SharedDirectory
import Courier.Proofs.Hosts.Ranking

/-!
# Overlapping operations never lose a host

However the operations on a directory overlap, and whatever scores they get, the map in use
has **the hosts of the map that was last taken over**: of the base of the latest store that
was no rescore (`Courier.SharedDirectory.current_sameUpToOrder`).

The invariant (`Courier.SharedDirectory.IsLocked`) speaks of operations half way through:

* whoever is past taking the lock and not yet past releasing it **has** it, so there is at
  most one such operation;
* a rescore that has loaded its base holds the map that is **still** in use.

The second would be false of a rescore that loads its base before it takes the lock. With the
two, every store of a rescore is a rearrangement of the map it replaces
(`Courier.SharedDirectory.IsHistory`), and the rest is an induction over the stores.

A second invariant (`Courier.SharedDirectory.IsTraced`) says what the map is that an operation
takes over: **the one it was given, or one that the server replied to it**.

That the steps are those of the operations of `Courier.Directory` is
`Courier.SharedDirectory.run_alone`: without others in between, the one does what the other
does.
-/

namespace Courier

namespace SharedDirectory

variable {α : Type}

/-! ### What the stores say -/

/-- The map in use after stores, the latest first. -/
def mapAfter (initial : HostMap) : List Store → HostMap
  | [] => initial
  | e :: _ => e.map

/-- The map that was last taken over: the base of the latest store that was no rescore. -/
def baseAfter (initial : HostMap) : List Store → HostMap
  | [] => initial
  | e :: earlier => if e.operation = .rescore then baseAfter initial earlier else e.base

/-- Every store is a rearrangement of its base, and the base of a rescore was the map in
use. -/
def IsHistory (initial : HostMap) : List Store → Prop
  | [] => True
  | e :: earlier => e.map.SameUpToOrder e.base ∧
      (e.operation = .rescore → e.base = mapAfter initial earlier) ∧ IsHistory initial earlier

/-- **The map in use is a rearrangement of the map last taken over.** -/
theorem IsHistory.sameUpToOrder {initial : HostMap} {stores : List Store}
    (h : IsHistory initial stores) :
    (mapAfter initial stores).SameUpToOrder (baseAfter initial stores) := by
  induction stores with
  | nil => exact HostMap.SameUpToOrder.refl initial
  | cons e earlier ih =>
    obtain ⟨hmap, hbase, hearlier⟩ := h
    by_cases hop : e.operation = .rescore
    · rw [baseAfter, if_pos hop]
      rw [hbase hop] at hmap
      exact hmap.trans (ih hearlier)
    · rw [baseAfter, if_neg hop]
      exact hmap

/-! ### Operations and their numbers -/

section Numbers

variable {processes : List (Process α)} {i : Nat} {p q : Process α}

/-- After a call, an operation is one from before, or the one that was called. -/
theorem getElem?_of_called (h : (processes ++ [p])[i]? = some q) :
    processes[i]? = some q ∨ q = p := by
  rw [List.getElem?_append] at h
  split at h
  · exact Or.inl h
  · rw [List.getElem?_singleton] at h
    split at h
    · exact Or.inr (Option.some.inj h).symm
    · cases h

/-- After one operation was put at a stage, it is the one with its number, and the others are what
they were. -/
theorem getElem?_of_set {j : Nat} (h : (processes.set i p)[j]? = some q) :
    j = i ∧ q = p ∨ j ≠ i ∧ processes[j]? = some q := by
  by_cases hij : j = i
  · subst j
    rw [List.getElem?_set, if_pos rfl] at h
    split at h
    · exact Or.inl ⟨rfl, (Option.some.inj h).symm⟩
    · cases h
  · rw [List.getElem?_set_ne (Ne.symm hij)] at h
    exact Or.inr ⟨hij, h⟩

end Numbers

/-! ### The lock -/

namespace Stage

/-- Past taking the lock and not past releasing it. -/
def IsInside : Stage α → Prop
  | .entered _ | .scoring _ | .scored _ _ | .leaving _ => True
  | _ => False

/-- The base map loaded. -/
def base? : Stage α → Option HostMap
  | .scoring base | .scored base _ => some base
  | _ => none

theorem isInside_of_base? {stage : Stage α} {base : HostMap} (h : stage.base? = some base) :
    stage.IsInside := by
  cases stage <;> simp_all [base?, IsInside]

theorem not_isInside_admission (op : Operation) (d : Directory) (isRemote : Bool) :
    ¬ (admission op d isRemote : Stage α).IsInside := by
  cases hd : d.isShut <;> cases op <;> cases isRemote <;> simp [admission, hd, IsInside]

theorem not_isInside_ofReply (fetched : Fetched) : ¬ (ofReply fetched : Stage α).IsInside := by
  cases fetched <;> simp [ofReply, IsInside]

end Stage

/-- The operations half way through, and the stores so far. -/
structure IsLocked (initial : HostMap) (s : SharedDirectory α) : Prop where
  /-- Whoever is inside has the lock. -/
  holder : ∀ (i : Nat) p, s.processes[i]? = some p → p.stage.IsInside → s.holder = some i
  /-- The base that a rescore has loaded is still in use. -/
  loaded : ∀ (i : Nat) p base, s.processes[i]? = some p → p.operation = .rescore →
    p.stage.base? = some base → base = s.directory.current
  history : IsHistory initial s.stores
  current : s.directory.current = mapAfter initial s.stores

/-- What one operation does keeps the invariant, if it takes the lock only when it is free
and changes the map in use only while it has it. -/
theorem IsLocked.change {initial : HostMap} {s s' : SharedDirectory α} (h : s.IsLocked initial)
    {i : Nat} {op : Operation} {stage : Stage α}
    (hprocesses : s'.processes = s.processes.set i ⟨op, stage⟩)
    (hholder : stage.IsInside → s'.holder = some i)
    (hloaded : ∀ base, op = .rescore → stage.base? = some base → base = s'.directory.current)
    (hothers : ∀ j, j ≠ i → s.holder = some j →
      s'.holder = some j ∧ s'.directory.current = s.directory.current)
    (hhistory : IsHistory initial s'.stores)
    (hcurrent : s'.directory.current = mapAfter initial s'.stores) : s'.IsLocked initial where
  holder j p hp hinside := by
    rw [hprocesses] at hp
    rcases getElem?_of_set hp with ⟨rfl, rfl⟩ | ⟨hj, hold⟩
    · exact hholder hinside
    · exact (hothers j hj (h.holder j p hold hinside)).1
  loaded j p base hp hop hbase := by
    rw [hprocesses] at hp
    rcases getElem?_of_set hp with ⟨rfl, rfl⟩ | ⟨hj, hold⟩
    · exact hloaded base hop hbase
    · have hheld := h.holder j p hold (Stage.isInside_of_base? hbase)
      rw [(hothers j hj hheld).2]
      exact h.loaded j p base hold hop hbase
  history := hhistory
  current := hcurrent

/-- A step that only puts an operation at another stage. -/
theorem IsLocked.put {initial : HostMap} {s : SharedDirectory α} (h : s.IsLocked initial)
    {i : Nat} {op : Operation} {stage : Stage α}
    (hholder : stage.IsInside → s.holder = some i)
    (hloaded : ∀ base, op = .rescore → stage.base? = some base → base = s.directory.current) :
    (s.put i op stage).IsLocked initial :=
  h.change rfl hholder hloaded (fun _ _ hj => ⟨hj, rfl⟩) h.history h.current

/-- A step that puts an operation at a stage outside the lock. -/
theorem IsLocked.put_outside {initial : HostMap} {s : SharedDirectory α} (h : s.IsLocked initial)
    (i : Nat) (op : Operation) {stage : Stage α} (hstage : ¬ stage.IsInside) :
    (s.put i op stage).IsLocked initial :=
  h.put (fun hinside => absurd hinside hstage)
    fun _ _ hbase => absurd (Stage.isInside_of_base? hbase) hstage

theorem isLocked_start (d : Directory) (isRemote : Bool) :
    (start d isRemote : SharedDirectory α).IsLocked d.current where
  holder i p hp := by simp [start] at hp
  loaded i p base hp := by simp [start] at hp
  history := trivial
  current := rfl

/-! ### Every step -/

section Steps

variable {initial : HostMap} {s : SharedDirectory α}

/-- A free lock may be taken, for it is free as long as nobody is inside. -/
theorem IsLocked.enter (h : s.IsLocked initial) (hfree : s.holder = none) (i : Nat)
    (op : Operation) (base : Option HostMap) :
    ({ s with holder := some i }.put i op (.entered base) : SharedDirectory α).IsLocked
      initial := by
  refine h.change rfl (fun _ => rfl) (fun _ _ hb => by simp [Stage.base?] at hb)
    (fun j _ hheld => ?_) h.history h.current
  rw [hfree] at hheld
  cases hheld

/-- Whoever has the lock may release it. -/
theorem IsLocked.leave (h : s.IsLocked initial) {i : Nat} (hheld : s.holder = some i)
    (op : Operation) (answer : Answer) :
    ({ s with holder := none }.put i op (.finished answer) : SharedDirectory α).IsLocked
      initial := by
  refine h.change rfl (fun hinside => by simp [Stage.IsInside] at hinside)
    (fun _ _ hb => by simp [Stage.base?] at hb) (fun j hj hheld' => ?_) h.history h.current
  rw [hheld, Option.some_inj] at hheld'
  exact absurd hheld'.symm hj

variable [Scalar α]

/-- **Adopting a map keeps the invariant.** Whoever adopts has the lock, so nobody else is
inside; a rescore adopts what is still in use. -/
theorem IsLocked.adopt (h : s.IsLocked initial) {i : Nat} {op : Operation} {base : HostMap}
    (hheld : s.holder = some i) (hbase : op = .rescore → base = s.directory.current)
    (scores : List (Score α)) : (s.adopt i op base scores).IsLocked initial := by
  have hothers : ∀ j, j ≠ i → s.holder = some j → False := by
    intro j hj hheld'
    rw [hheld, Option.some_inj] at hheld'
    exact hj hheld'.symm
  rcases s.directory.adopt_eq_or base scores with heq | heq
  · rw [SharedDirectory.adopt, heq]
    exact h.put (fun _ => hheld) fun _ _ hb => by simp [Stage.base?] at hb
  · rw [SharedDirectory.adopt, heq]
    refine h.change rfl (fun _ => hheld) (fun _ _ hb => by simp [Stage.base?] at hb)
      (fun j hj hheld' => absurd hheld' (hothers j hj)) ?_ rfl
    refine ⟨base.sameUpToOrder_ranked scores, fun hop => ?_, h.history⟩
    rw [hbase hop, h.current]

/-- **A step of an operation keeps the invariant**, from any stage. -/
theorem IsLocked.move (h : s.IsLocked initial) {i : Nat} {p : Process α}
    (hp : s.processes[i]? = some p) : (s.move i p.operation p.stage).IsLocked initial := by
  obtain ⟨op, stage⟩ := p
  cases stage with
  | called => exact h.put_outside i op (Stage.not_isInside_admission _ _ _)
  | admitted => exact h.put_outside i op (by simp [Stage.IsInside])
  | addressed host => exact h.put_outside i op (by simp [Stage.IsInside])
  | asked host => exact h
  | queued fetched =>
    by_cases hfree : s.holder = none
    · rw [SharedDirectory.move, if_pos hfree]
      exact h.enter hfree i op fetched
    · rw [SharedDirectory.move, if_neg hfree]
      exact h
  | entered fetched =>
    refine h.put (fun _ => h.holder i _ hp trivial) fun base hop hbase => ?_
    -- a rescore loads the map in use, now that it has the lock
    subst hop
    simpa [Stage.entry, Stage.base?, eq_comm] using hbase
  | scoring base => exact h
  | scored base scores =>
    exact h.adopt (h.holder i _ hp trivial) (fun hop => h.loaded i _ base hp hop rfl) scores
  | leaving answer => exact h.leave (h.holder i _ hp trivial) op answer
  | finished answer => exact h

/-- **Every event keeps the invariant.** -/
theorem IsLocked.step (h : s.IsLocked initial) (e : Event α) : (s.step e).IsLocked initial := by
  cases e with
  | call op =>
    have hnew : ∀ (i : Nat) (p : Process α),
        (s.processes ++ [⟨op, .called⟩])[i]? = some p → p.stage.IsInside →
          s.processes[i]? = some p := by
      intro i p hp hinside
      rcases getElem?_of_called hp with hold | rfl
      · exact hold
      · cases hinside
    refine ⟨fun i p hp hinside => ?_, fun i p base hp hop hbase => ?_, h.history, h.current⟩
    · exact h.holder i p (hnew i p hp hinside) hinside
    · exact h.loaded i p base (hnew i p hp (Stage.isInside_of_base? hbase)) hop hbase
  | shut => exact ⟨h.holder, h.loaded, h.history, h.current⟩
  | move i =>
    simp only [SharedDirectory.step]
    cases hp : s.processes[i]? with
    | none => exact h
    | some p => exact h.move hp
  | reply i fetched =>
    simp only [SharedDirectory.step]
    split
    · exact h.put_outside i _ (Stage.not_isInside_ofReply fetched)
    · exact h
  | score i scores =>
    simp only [SharedDirectory.step]
    split
    next op base hp =>
      exact h.put (fun _ => h.holder i _ hp trivial) fun loaded hop hb => by
        cases hb
        exact h.loaded i _ base hp hop rfl
    · exact h

/-- **Every schedule keeps the invariant.** -/
theorem IsLocked.run (h : s.IsLocked initial) (events : List (Event α)) :
    (s.run events).IsLocked initial := by
  induction events generalizing s with
  | nil => exact h
  | cons e events ih => exact ih (h.step e)

end Steps

/-! ### What is taken over -/

/-- What the base of an operation is, under its number in a schedule: that of a rebase is the
map it was given, and that of a refresh came with a reply to it. What a rescore ranks is said by
`IsHistory`. -/
def Operation.IsBase (events : List (Event α)) (i : Nat) : Operation → HostMap → Prop
  | .rescore, _ => True
  | .rebase given, base => base = given
  | .refresh, base => .reply i (.found base) ∈ events

/-- An operation half way through holds such a base. A refresh has one already when it waits for
the lock. -/
def Stage.HasBase (events : List (Event α)) (i : Nat) (op : Operation) : Stage α → Prop
  | .queued fetched | .entered fetched =>
    op = .refresh → ∃ base, fetched = some base ∧ op.IsBase events i base
  | .scoring base | .scored base _ => op.IsBase events i base
  | _ => True

/-- A store was made by one of the operations, from such a base. -/
def IsStored (events : List (Event α)) (processes : List (Process α)) (e : Store) : Prop :=
  (∃ stage, processes[e.process]? = some ⟨e.operation, stage⟩) ∧
    e.operation.IsBase events e.process e.base

/-- **What operations hold and what they stored can be traced** to what they were given and to
what the server replied. -/
structure IsTraced (events : List (Event α)) (s : SharedDirectory α) : Prop where
  held : ∀ (i : Nat) p, s.processes[i]? = some p → p.stage.HasBase events i p.operation
  stored : ∀ e ∈ s.stores, IsStored events s.processes e

theorem Stage.hasBase_admission (events : List (Event α)) (i : Nat) (op : Operation)
    (d : Directory) (isRemote : Bool) : (admission op d isRemote).HasBase events i op := by
  cases hd : d.isShut <;> cases op <;> cases isRemote <;> simp [admission, hd, HasBase]

/-- A reply is what a refresh goes on with. -/
theorem Stage.hasBase_ofReply {events : List (Event α)} {i : Nat} {fetched : Fetched}
    (hreply : .reply i fetched ∈ events) (op : Operation) :
    (ofReply fetched).HasBase events i op := by
  cases fetched with
  | found base =>
    rintro rfl
    exact ⟨base, rfl, hreply⟩
  | notFound | rejected | exhausted => trivial

/-- A refresh that has taken the lock ranks what it fetched, never the map in use. -/
theorem Stage.hasBase_entry {events : List (Event α)} {i : Nat} {op : Operation}
    {fetched : Option HostMap} (h : (entered fetched : Stage α).HasBase events i op)
    (current : HostMap) : (entry op current fetched).HasBase events i op := by
  cases op with
  | rescore => trivial
  | rebase given => rfl
  | refresh =>
    obtain ⟨base, rfl, hbase⟩ := h rfl
    simp only [entry]
    split
    · trivial
    · exact hbase

section Traces

variable {events : List (Event α)} {s : SharedDirectory α}

/-- A store stays with its operation, at whatever stage that is put. -/
theorem IsStored.set {processes : List (Process α)} {e : Store}
    (h : IsStored events processes e) {i : Nat} {p : Process α} (hp : processes[i]? = some p)
    (stage : Stage α) : IsStored events (processes.set i ⟨p.operation, stage⟩) e := by
  obtain ⟨⟨old, he⟩, hbase⟩ := h
  refine ⟨?_, hbase⟩
  rw [List.getElem?_set]
  split
  · subst i
    rw [he] at hp
    cases hp
    exact ⟨stage, if_pos (List.getElem?_eq_some_iff.1 he).1⟩
  · exact ⟨old, he⟩

/-- What one operation does keeps the traces, if its new stage has a base of its own, and so has
what it stored. -/
theorem IsTraced.change (h : s.IsTraced events) {s' : SharedDirectory α} {i : Nat}
    {p : Process α} {stage : Stage α} (hp : s.processes[i]? = some p)
    (hprocesses : s'.processes = s.processes.set i ⟨p.operation, stage⟩)
    (hstage : stage.HasBase events i p.operation)
    (hstores : ∀ e ∈ s'.stores, e ∈ s.stores ∨
      e.process = i ∧ e.operation = p.operation ∧ p.operation.IsBase events i e.base) :
    s'.IsTraced events where
  held j q hq := by
    rw [hprocesses] at hq
    rcases getElem?_of_set hq with ⟨rfl, rfl⟩ | ⟨-, hold⟩
    · exact hstage
    · exact h.held j q hold
  stored e he := by
    rw [hprocesses]
    rcases hstores e he with hold | ⟨hnumber, hop, hbase⟩
    · exact (h.stored e hold).set hp stage
    · obtain ⟨number, op, base, map⟩ := e
      subst hnumber hop
      refine ⟨⟨stage, ?_⟩, hbase⟩
      rw [List.getElem?_set_self (List.getElem?_eq_some_iff.1 hp).1]

/-- A step that only puts an operation at another stage. -/
theorem IsTraced.put (h : s.IsTraced events) {i : Nat} {p : Process α}
    (hp : s.processes[i]? = some p) {stage : Stage α}
    (hstage : stage.HasBase events i p.operation) : (s.put i p.operation stage).IsTraced events :=
  h.change hp rfl hstage fun _ => Or.inl

theorem isTraced_start (events : List (Event α)) (d : Directory) (isRemote : Bool) :
    (start d isRemote : SharedDirectory α).IsTraced events where
  held _ _ hp := by simp [start] at hp
  stored _ he := absurd he List.not_mem_nil

variable [Scalar α]

/-- **A step of an operation keeps the traces**, from any stage. -/
theorem IsTraced.move (h : s.IsTraced events) {i : Nat} {p : Process α}
    (hp : s.processes[i]? = some p) : (s.move i p.operation p.stage).IsTraced events := by
  have hheld := h.held i p hp
  obtain ⟨op, stage⟩ := p
  cases stage with
  | called => exact h.put hp (Stage.hasBase_admission _ _ _ _ _)
  | admitted | addressed host => exact h.put hp trivial
  | asked host | scoring base | finished answer => exact h
  | queued fetched =>
    simp only [SharedDirectory.move]
    split
    · exact h.change hp rfl hheld fun _ => Or.inl
    · exact h
  | entered fetched => exact h.put hp (Stage.hasBase_entry hheld _)
  | scored base scores =>
    rcases s.directory.adopt_eq_or base scores with heq | heq <;>
      simp only [SharedDirectory.move, SharedDirectory.adopt, heq]
    · exact h.change hp rfl trivial fun _ => Or.inl
    · refine h.change hp rfl trivial fun e he => ?_
      rcases List.mem_cons.1 he with rfl | hold
      · -- the new store has the base that was held while hosts were scored
        exact Or.inr ⟨rfl, rfl, hheld⟩
      · exact Or.inl hold
  | leaving answer => exact h.change hp rfl trivial fun _ => Or.inl

/-- **Every event of a schedule keeps the traces.** -/
theorem IsTraced.step (h : s.IsTraced events) {e : Event α} (he : e ∈ events) :
    (s.step e).IsTraced events := by
  cases e with
  | call op =>
    refine ⟨fun i p hp => ?_, fun e he => ?_⟩
    · rcases getElem?_of_called hp with hold | rfl
      · exact h.held i p hold
      · -- whoever was just called holds nothing yet
        trivial
    · obtain ⟨⟨stage, hstage⟩, hbase⟩ := h.stored e he
      refine ⟨⟨stage, ?_⟩, hbase⟩
      rw [SharedDirectory.step,
        List.getElem?_append_left (List.getElem?_eq_some_iff.1 hstage).1, hstage]
  | shut => exact ⟨h.held, h.stored⟩
  | move i =>
    simp only [SharedDirectory.step]
    cases hp : s.processes[i]? with
    | none => exact h
    | some p => exact h.move hp
  | reply i fetched =>
    simp only [SharedDirectory.step]
    split
    next op host hp => exact h.put hp (Stage.hasBase_ofReply he op)
    · exact h
  | score i scores =>
    simp only [SharedDirectory.step]
    split
    next op base hp => exact h.put hp (h.held i _ hp)
    · exact h

/-- **Every schedule keeps the traces.** -/
theorem IsTraced.run (h : s.IsTraced events) {done : List (Event α)} (hdone : done ⊆ events) :
    (s.run done).IsTraced events := by
  induction done generalizing s with
  | nil => exact h
  | cons e done ih =>
    rw [List.cons_subset] at hdone
    exact ih (h.step hdone.1) hdone.2

end Traces

/-- **Whatever overlaps, no host is lost and none comes back.** In every schedule, the map in
use serves all paths, and it is a rearrangement of the map that was last taken over by other
than a rescore; a rescore only ever rearranges the map it replaces. What a rebase took over is
the map it was given, and what a refresh took over came with the server's reply to it. -/
theorem current_sameUpToOrder [Scalar α] (d : Directory) (isRemote : Bool)
    (events : List (Event α)) :
    let s := (start d isRemote).run events
    (∃ best others, s.directory.current.paths.get? defaultPath = some (best :: others)) ∧
      s.directory.current.SameUpToOrder (baseAfter d.current s.stores) ∧
      s.directory.current = mapAfter d.current s.stores ∧
      IsHistory d.current s.stores ∧
      ∀ e ∈ s.stores, (∃ stage, s.processes[e.process]? = some ⟨e.operation, stage⟩) ∧
        (∀ given, e.operation = .rebase given → e.base = given) ∧
        (e.operation = .refresh → .reply e.process (.found e.base) ∈ events) := by
  intro s
  have h : s.IsLocked d.current := (isLocked_start d isRemote).run events
  have htraced : s.IsTraced events := (isTraced_start events d isRemote).run fun _ => id
  refine ⟨s.directory.current.exists_default, ?_, h.current, h.history, fun e he => ?_⟩
  · rw [h.current]
    exact h.history.sameUpToOrder
  · obtain ⟨hprocess, hbase⟩ := htraced.stored e he
    refine ⟨hprocess, fun given hop => ?_, fun hop => ?_⟩ <;>
    · rw [hop] at hbase
      exact hbase

/-! ### One operation alone

With nothing in between, the steps of an operation put one after another are the operation. -/

section Alone

variable [Scalar α]

/-- An operation from its call to its end, with nothing in between. Events for which its
stages have no use change nothing. -/
def alone (i : Nat) (op : Operation) (fetched : Fetched) (scores : List (Score α)) :
    List (Event α) :=
  [.call op, .move i, .move i, .move i, .reply i fetched, .move i, .move i, .score i scores,
    .move i, .move i]

/-- What an operation does to a directory at once, and its answer. -/
def Operation.atOnce (op : Operation) (d : Directory) (isRemote : Bool) (fetched : Fetched)
    (scores : List (Score α)) : Directory × Answer :=
  match op with
  | .rescore =>
    let (d, isChanged) := Id.run (d.rescore fun _ => pure scores)
    (d, .changed isChanged)
  | .rebase base =>
    let (d, isChanged) := Id.run (d.rebase (fun _ => pure scores) base)
    (d, .changed isChanged)
  | .refresh =>
    let fetch := if isRemote then some fun _ => pure fetched else none
    let (d, r) := Id.run (d.refresh (fun _ => pure scores) fetch)
    (d, .refreshed r)

/-- **An operation alone does in steps what it does at once.** -/
theorem run_alone (s : SharedDirectory α) (hfree : s.holder = none) (op : Operation)
    (fetched : Fetched) (scores : List (Score α)) :
    let s' := s.run (alone s.processes.length op fetched scores)
    let result := op.atOnce s.directory s.isRemote fetched scores
    s'.directory = result.1 ∧ s'.holder = none ∧
      s'.processes = s.processes ++ [⟨op, .finished result.2⟩] := by
  obtain ⟨d, isRemote, holder, processes, stores⟩ := s
  cases hfree
  cases hs : d.isShut with
  | true =>
    cases op <;> cases isRemote <;>
      simp [alone, run, step, move, put, Stage.admission, hs, Operation.refusal,
        Operation.atOnce, Directory.rescore, Directory.rebase, Directory.refresh]
  | false =>
    cases op with
    | rescore =>
      rcases d.adopt_eq_or d.current scores with h | h <;>
        simp [alone, run, step, move, put, Stage.admission, hs, Stage.entry, adopt, h,
          Operation.answer, Operation.atOnce, Directory.rescore, Directory.scoreAndAdopt]
    | rebase base =>
      rcases d.adopt_eq_or base scores with h | h <;>
        simp [alone, run, step, move, put, Stage.admission, hs, Stage.entry, adopt, h,
          Operation.answer, Operation.atOnce, Directory.rebase, Directory.scoreAndAdopt]
    | refresh =>
      cases isRemote with
      | false =>
        simp [alone, run, step, move, put, Stage.admission, hs, Operation.refusal,
          Operation.atOnce, Directory.refresh]
      | true =>
        cases fetched with
        | notFound | rejected | exhausted =>
          simp [alone, run, step, move, put, Stage.admission, hs, Stage.ofReply,
            Operation.atOnce, Directory.refresh, Directory.applyFetched]
        | found base =>
          cases hsame : base.sameHosts d.current with
          | true =>
            simp [alone, run, step, move, put, Stage.admission, hs, Stage.ofReply, Stage.entry,
              hsame, Operation.atOnce, Directory.refresh, Directory.applyFetched]
          | false =>
            rcases d.adopt_eq_or base scores with h | h <;>
              simp [alone, run, step, move, put, Stage.admission, hs, Stage.ofReply,
                Stage.entry, hsame, adopt, h, Operation.answer, Operation.atOnce,
                Directory.refresh, Directory.applyFetched, Directory.scoreAndAdopt]

end Alone

end SharedDirectory

end Courier
