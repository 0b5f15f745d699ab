import Courier.Number.Fraction
import Courier.Proofs.Hosts.SharedDirectory

/-!
# A directory that was shut

A directory can be shut while operations on it are half way through. An operation looks once
whether it was, before it does anything else, so there are two kinds of operations afterwards:

* one that **has still to look** (`Courier.SharedDirectory.HasToLook`), because it was not
  called before or did not come further, is refused. It asks nothing of the outside and
  brings no map into use;
* one that has looked before goes on. It brings **at most one** map into use, as every
  operation does.

The two are `Courier.SharedDirectory.IsKeptOut` and `Courier.SharedDirectory.IsOrderly`, and
both are kept by every event, for the same reason: an event is the next stage of one operation,
or the one stage at which a map is adopted (`Courier.SharedDirectory.Effect`). The whole is
`Courier.SharedDirectory.isInert_after_shut`.
-/

namespace Courier

namespace SharedDirectory

variable {α : Type}

/-! ### What an event can do -/

namespace Stage

/-- Past adopting a map. -/
def IsOver : Stage α → Prop
  | .leaving _ | .finished _ => True
  | _ => False

theorem admission_of_isShut {d : Directory} (hd : d.isShut = true) (op : Operation)
    (isRemote : Bool) : (admission op d isRemote : Stage α) = .finished op.refusal := by
  simp [admission, hd]

end Stage

section Effects

variable [Scalar α]

/-- **What an event can do**: nothing; a call; the end of all work; the next stage of one
operation; or the adoption of a map, at the one stage at which an operation has scores. The
first stage is followed by the look whether the directory was shut, and an operation that is
past adopting a map only has the lock to release. -/
inductive Effect (s : SharedDirectory α) : SharedDirectory α → Prop
  | nothing : Effect s s
  | call (op : Operation) : Effect s { s with processes := s.processes ++ [⟨op, .called⟩] }
  | shut : Effect s { s with directory := s.directory.shut }
  | go {i : Nat} {op : Operation} {stage next : Stage α} (holder : Option Nat)
      (hp : s.processes[i]? = some ⟨op, stage⟩)
      (hcalled : stage = .called → next = .admission op s.directory s.isRemote)
      (hover : stage.IsOver → ∃ answer, stage = .leaving answer ∧ next = .finished answer) :
      Effect s ({ s with holder := holder }.put i op next)
  | adopt {i : Nat} {op : Operation} {base : HostMap} {scores : List (Score α)}
      (hp : s.processes[i]? = some ⟨op, .scored base scores⟩) : Effect s (s.adopt i op base scores)

theorem effect_move {s : SharedDirectory α} {i : Nat} {p : Process α}
    (hp : s.processes[i]? = some p) : Effect s (s.move i p.operation p.stage) := by
  obtain ⟨op, stage⟩ := p
  cases stage with
  | called => exact .go s.holder hp (fun _ => rfl) (fun h => h.elim)
  | admitted => exact .go s.holder hp (fun h => by cases h) (fun h => h.elim)
  | addressed host => exact .go s.holder hp (fun h => by cases h) (fun h => h.elim)
  | asked host => exact .nothing
  | queued fetched =>
    simp only [move]
    split
    · exact .go (some i) hp (fun h => by cases h) (fun h => h.elim)
    · exact .nothing
  | entered fetched => exact .go s.holder hp (fun h => by cases h) (fun h => h.elim)
  | scoring base => exact .nothing
  | scored base scores => exact .adopt hp
  | leaving answer => exact .go none hp (fun h => by cases h) (fun _ => ⟨answer, rfl, rfl⟩)
  | finished answer => exact .nothing

/-- Every event has one of these effects. -/
theorem effect_step (s : SharedDirectory α) (e : Event α) : Effect s (s.step e) := by
  cases e with
  | call op => exact .call op
  | shut => exact .shut
  | move i =>
    simp only [step]
    cases hp : s.processes[i]? with
    | none => exact .nothing
    | some p => exact effect_move hp
  | reply i fetched =>
    simp only [step]
    split
    next op host hp => exact .go s.holder hp (fun h => by cases h) (fun h => h.elim)
    · exact .nothing
  | score i scores =>
    simp only [step]
    split
    next op base hp => exact .go s.holder hp (fun h => by cases h) (fun h => h.elim)
    · exact .nothing

end Effects

/-! ### Once at most -/

/-- Every operation stored at most once, and those that did are past adopting a map. -/
structure IsOrderly (s : SharedDirectory α) : Prop where
  once : (s.stores.map (·.process)).Nodup
  isOver : ∀ e ∈ s.stores, ∃ p, s.processes[e.process]? = some p ∧ p.stage.IsOver

theorem isOrderly_start (d : Directory) (isRemote : Bool) :
    (start d isRemote : SharedDirectory α).IsOrderly where
  once := List.nodup_nil
  isOver e he := by simp [start] at he

/-- An operation that is not past adopting a map has not stored any. -/
theorem IsOrderly.process_ne {s : SharedDirectory α} (h : s.IsOrderly) {i : Nat}
    {p : Process α} (hp : s.processes[i]? = some p) (hover : ¬ p.stage.IsOver) :
    ∀ e ∈ s.stores, e.process ≠ i := by
  rintro e he rfl
  obtain ⟨q, hq, hqover⟩ := h.isOver e he
  rw [hp, Option.some_inj] at hq
  exact hover (hq ▸ hqover)

/-- The operations that stored are still past adopting a map when one of them, or another,
is put at a stage. -/
theorem IsOrderly.over_set {s : SharedDirectory α} (h : s.IsOrderly) {i : Nat}
    {p q : Process α} (hp : s.processes[i]? = some p)
    (hover : p.stage.IsOver → q.stage.IsOver) :
    ∀ e ∈ s.stores, ∃ r, (s.processes.set i q)[e.process]? = some r ∧ r.stage.IsOver := by
  intro e he
  obtain ⟨r, hr, hrover⟩ := h.isOver e he
  by_cases hi : i = e.process
  · subst hi
    obtain ⟨hlt, -⟩ := List.getElem?_eq_some_iff.1 hp
    rw [hp, Option.some_inj] at hr
    exact ⟨q, List.getElem?_set_self hlt, hover (hr ▸ hrover)⟩
  · exact ⟨r, (List.getElem?_set_ne hi).trans hr, hrover⟩

variable [Scalar α]

/-- **Adopting a map is done once**: whoever adopts one has not stored any, and is past it
afterwards. -/
theorem IsOrderly.adopt {s : SharedDirectory α} (h : s.IsOrderly) {i : Nat} {op : Operation}
    {base : HostMap} {scores : List (Score α)}
    (hp : s.processes[i]? = some ⟨op, .scored base scores⟩) :
    (s.adopt i op base scores).IsOrderly := by
  obtain ⟨hlt, -⟩ := List.getElem?_eq_some_iff.1 hp
  have hnone : ∀ e ∈ s.stores, e.process ≠ i := h.process_ne hp fun hover => hover
  rcases s.directory.adopt_eq_or base scores with heq | heq
  · rw [SharedDirectory.adopt, heq]
    exact ⟨h.once, h.over_set hp fun _ => trivial⟩
  · rw [SharedDirectory.adopt, heq]
    refine ⟨List.nodup_cons.2 ⟨?_, h.once⟩, List.forall_mem_cons.2 ⟨?_, ?_⟩⟩
    · intro hmem
      obtain ⟨e, he, hei⟩ := List.mem_map.1 hmem
      exact hnone e he hei
    · exact ⟨_, List.getElem?_set_self hlt, trivial⟩
    · exact h.over_set hp fun _ => trivial

theorem IsOrderly.step {s : SharedDirectory α} (h : s.IsOrderly) (e : Event α) :
    (s.step e).IsOrderly := by
  have heffect := effect_step s e
  generalize s.step e = s' at heffect ⊢
  cases heffect with
  | nothing => exact h
  | call op =>
    refine ⟨h.once, fun e he => ?_⟩
    obtain ⟨p, hp, hover⟩ := h.isOver e he
    obtain ⟨hlt, -⟩ := List.getElem?_eq_some_iff.1 hp
    exact ⟨p, (List.getElem?_append_left hlt).trans hp, hover⟩
  | shut => exact ⟨h.once, h.isOver⟩
  | go holder hp _ hover =>
    refine ⟨h.once, h.over_set hp fun hstage => ?_⟩
    obtain ⟨answer, -, rfl⟩ := hover hstage
    trivial
  | adopt hp => exact h.adopt hp

theorem IsOrderly.run {s : SharedDirectory α} (h : s.IsOrderly) (events : List (Event α)) :
    (s.run events).IsOrderly := by
  induction events generalizing s with
  | nil => exact h
  | cons e events ih => exact ih (h.step e)

/-! ### Not at all -/

/-- What an operation asks of the outside. -/
inductive Demand where
  /-- The host map of the server, through a host. -/
  | map (host : String)
  /-- The scores of hosts. -/
  | scores (hosts : List String)
deriving DecidableEq

/-- What an operation asks of the outside by the step that follows. -/
def Stage.demand? (op : Operation) (current : HostMap) : Stage α → Option Demand
  | .addressed host => some (.map host)
  | .entered fetched =>
    match (entry op current fetched : Stage α) with
    | .scoring base => some (.scores base.distinct)
    | _ => none
  | _ => none

/-- What an event has an operation ask of the outside, and the number of the operation. -/
def demand? (s : SharedDirectory α) : Event α → Option (Nat × Demand)
  | .move i =>
    match s.processes[i]? with
    | some p => (p.stage.demand? p.operation s.directory.current).map (i, ·)
    | none => none
  | _ => none

/-- **All that is asked of the outside** in a schedule. -/
def demands (s : SharedDirectory α) : List (Event α) → List (Nat × Demand)
  | [] => []
  | e :: events => (s.demand? e).toList ++ (s.step e).demands events

/-- Operation `i` was not called yet, or has still to look whether the directory was shut. -/
def HasToLook (s : SharedDirectory α) (i : Nat) : Prop :=
  ∀ p, s.processes[i]? = some p → p.stage = .called

/-- Operation `i` of a directory that was shut was not let in: it has still to look, or was
refused, and it stored nothing. -/
structure IsKeptOut (s : SharedDirectory α) (i : Nat) : Prop where
  isShut : s.directory.isShut = true
  stage : ∀ p, s.processes[i]? = some p →
    p.stage = .called ∨ p.stage = .finished p.operation.refusal
  stores : ∀ e ∈ s.stores, e.process ≠ i

section KeptOut

variable {s : SharedDirectory α} {i : Nat}

/-- An operation that has to look when the directory is shut is kept out. -/
theorem IsOrderly.isKeptOut_shut (h : s.IsOrderly) (hi : s.HasToLook i) :
    (s.step .shut).IsKeptOut i where
  isShut := rfl
  stage p hp := Or.inl (hi p hp)
  stores e he := by
    rintro rfl
    obtain ⟨p, hp, hover⟩ := h.isOver e he
    rw [hi p hp] at hover
    exact hover

/-- **An operation that is kept out is refused by its next step**, which changes nothing
else. -/
theorem IsKeptOut.move_self (h : s.IsKeptOut i) {p : Process α} (hp : s.processes[i]? = some p) :
    (s.step (.move i)).processes[i]? = some ⟨p.operation, .finished p.operation.refusal⟩ ∧
      (s.step (.move i)).directory = s.directory := by
  obtain ⟨hlt, -⟩ := List.getElem?_eq_some_iff.1 hp
  obtain ⟨op, stage⟩ := p
  rcases h.stage _ hp with hstage | hstage
  · dsimp only at hstage
    subst hstage
    simp only [SharedDirectory.step, hp, SharedDirectory.move, put,
      Stage.admission_of_isShut h.isShut]
    exact ⟨List.getElem?_set_self hlt, trivial⟩
  · dsimp only at hstage
    subst hstage
    simp only [SharedDirectory.step, hp, SharedDirectory.move, and_self]

omit [Scalar α] in
/-- **An operation that is kept out asks nothing of the outside.** -/
theorem IsKeptOut.demand?_ne (h : s.IsKeptOut i) (e : Event α) (demand : Demand) :
    s.demand? e ≠ some (i, demand) := by
  intro he
  cases e with
  | move j =>
    simp only [demand?] at he
    split at he
    next p hp =>
      obtain ⟨d, hd, heq⟩ := Option.map_eq_some_iff.1 he
      cases heq
      rcases h.stage p hp with hstage | hstage <;> simp [hstage, Stage.demand?] at hd
    · cases he
  | call _ | shut | reply _ _ | score _ _ => cases he

/-- An operation that adopts a map was let in. -/
theorem IsKeptOut.adopt (h : s.IsKeptOut i) {j : Nat} {op : Operation} {base : HostMap}
    {scores : List (Score α)} (hp : s.processes[j]? = some ⟨op, .scored base scores⟩) :
    (s.adopt j op base scores).IsKeptOut i := by
  have hj : j ≠ i := by
    rintro rfl
    rcases h.stage _ hp with hstage | hstage <;> cases hstage
  have hstage (stage : Stage α) (p : Process α)
      (hq : (s.processes.set j ⟨op, stage⟩)[i]? = some p) :
      p.stage = .called ∨ p.stage = .finished p.operation.refusal := by
    rw [List.getElem?_set_ne hj] at hq
    exact h.stage p hq
  rcases s.directory.adopt_eq_or base scores with heq | heq
  · rw [SharedDirectory.adopt, heq]
    exact ⟨h.isShut, hstage _, h.stores⟩
  · rw [SharedDirectory.adopt, heq]
    exact ⟨h.isShut, hstage _, List.forall_mem_cons.2 ⟨hj, h.stores⟩⟩

/-- **Every event keeps out who is kept out.** -/
theorem IsKeptOut.step (h : s.IsKeptOut i) (e : Event α) : (s.step e).IsKeptOut i := by
  have heffect := effect_step s e
  generalize s.step e = s' at heffect ⊢
  cases heffect with
  | nothing => exact h
  | call op =>
    refine ⟨h.isShut, fun p hp => ?_, h.stores⟩
    rcases getElem?_of_called hp with hold | rfl
    · exact h.stage p hold
    · -- the new operation has still to look
      exact Or.inl rfl
  | shut => exact ⟨rfl, h.stage, h.stores⟩
  | go holder hp hcalled hover =>
    rename_i j op stage next
    refine ⟨h.isShut, fun p hq => ?_, h.stores⟩
    rcases getElem?_of_set hq with ⟨rfl, rfl⟩ | ⟨-, hold⟩
    · rcases h.stage _ hp with hstage | hstage
      · exact Or.inr ((hcalled hstage).trans (Stage.admission_of_isShut h.isShut _ _))
      · -- who was refused has no next stage
        obtain ⟨answer, hleaving, -⟩ := hover (by rw [show stage = _ from hstage]; trivial)
        rw [show stage = _ from hstage] at hleaving
        cases hleaving
    · exact h.stage p hold
  | adopt hp => exact h.adopt hp

/-- **Every schedule keeps out who is kept out**, and has them ask nothing. -/
theorem IsKeptOut.run (h : s.IsKeptOut i) (events : List (Event α)) :
    (s.run events).IsKeptOut i ∧ ∀ demand, (i, demand) ∉ s.demands events := by
  induction events generalizing s with
  | nil => exact ⟨h, fun demand => by simp [demands]⟩
  | cons e events ih =>
    obtain ⟨hrun, hdemands⟩ := ih (h.step e)
    refine ⟨hrun, fun demand => ?_⟩
    rw [demands, List.mem_append, not_or, Option.mem_toList]
    exact ⟨h.demand?_ne e demand, hdemands demand⟩

end KeptOut

/-- What was shut stays shut. -/
theorem isShut_step {s : SharedDirectory α} (hs : s.directory.isShut = true) (e : Event α) :
    (s.step e).directory.isShut = true := by
  have heffect := effect_step s e
  generalize s.step e = s' at heffect ⊢
  cases heffect with
  | nothing | call _ | go _ _ _ _ => exact hs
  | shut => rfl
  | adopt hp => simpa [SharedDirectory.adopt, put] using hs

theorem isShut_run {s : SharedDirectory α} (hs : s.directory.isShut = true)
    (events : List (Event α)) : (s.run events).directory.isShut = true := by
  induction events generalizing s with
  | nil => exact hs
  | cons e events ih => exact ih (isShut_step hs e)

/-! ### The end -/

/-- **A directory that was shut is inert.** Whatever went before and whatever follows, it stays
shut. An operation that has still to look when it is shut asks nothing of the outside and
stores nothing, and its next step refuses it and leaves the directory as it is. Every other
operation stores at most once. The directory goes on answering from the map stored last. -/
theorem isInert_after_shut (d : Directory) (isRemote : Bool) (before after : List (Event α)) :
    let s := ((start d isRemote).run before).step .shut
    let s' := s.run after
    s'.directory.stateText = "Shutdown" ∧
      (∀ i, s.HasToLook i →
        (∀ demand, (i, demand) ∉ s.demands after) ∧ (∀ e ∈ s'.stores, e.process ≠ i) ∧
        ∀ p, s'.processes[i]? = some p →
          (p.stage = .called ∨ p.stage = .finished p.operation.refusal) ∧
          (s'.step (.move i)).processes[i]?
            = some ⟨p.operation, .finished p.operation.refusal⟩ ∧
          (s'.step (.move i)).directory = s'.directory) ∧
      (s'.stores.map (·.process)).Nodup ∧
      (∀ path, s'.directory.host path = (mapAfter d.current s'.stores).host path) ∧
      s'.directory.hosts = (mapAfter d.current s'.stores).distinct := by
  intro s s'
  have horderly : ((start d isRemote).run before).IsOrderly :=
    (isOrderly_start d isRemote).run before
  have hlocked : s'.IsLocked d.current :=
    (((isLocked_start d isRemote).run before).step .shut).run after
  refine ⟨?_, fun i hi => ?_, ((horderly.step .shut).run after).once, fun path => ?_, ?_⟩
  · have hshut : s'.directory.isShut = true := isShut_run rfl after
    rw [Directory.stateText, if_pos hshut]
  · obtain ⟨hout, hdemands⟩ := (horderly.isKeptOut_shut hi).run after
    refine ⟨hdemands, hout.stores, fun p hp => ⟨hout.stage p hp, hout.move_self hp⟩⟩
  · rw [Directory.host, hlocked.current]
  · rw [Directory.hosts, hlocked.current]

/-- Two operations that were called in time look too late. -/
theorem isInert_after_shut_of_two_calls :
    let d : Directory := ⟨⟨Table.empty.insert defaultPath ["b", "a"], by decide⟩, false⟩
    let calls : List (Event Rat) := [.call .rescore, .call .refresh]
    let looks : List (Event Rat) := [.move 0, .shut, .move 1]
    let s := ((start d true).run calls).step .shut
    s.HasToLook 1 ∧ (∀ demand, (1, demand) ∉ s.demands looks) ∧
      (s.run looks).processes[1]? = some ⟨.refresh, .finished (.refreshed .skipped)⟩ := by
  intro d calls looks s
  have hlook : s.HasToLook 1 := by
    intro p hp
    obtain rfl : (⟨.refresh, .called⟩ : Process Rat) = p := Option.some_inj.1 hp
    rfl
  exact ⟨hlook, ((isInert_after_shut d true calls looks).2.1 1 hlook).1, rfl⟩

end SharedDirectory

end Courier
