import Courier.Proofs.Hosts.SharedDirectory

/-!
# Who overtakes whom

The lock of a directory keeps an operation from being overtaken while hosts are scored: as
long as an operation has the lock, **nobody else** changes the map in use, however long its
pass takes (`Courier.SharedDirectory.HasLock.run`).

It does not cover the question to the server, which is asked before. Of two refreshes that
overlap, the one that asked first may be answered last, and then its map comes into use
**after** that of the other and replaces it (`Courier.SharedDirectory.run_overtaking`). So the
map in use is the one that was answered last, and not the one that was asked for last.
-/

namespace Courier

namespace Directory

variable {α : Type} [Scalar α]

/-- A map with other hosts than those in use comes into use, as soon as there are scores. -/
theorem adopt_of_otherHosts (d : Directory) {base : HostMap} {scores : List (Score α)}
    (hscores : scores ≠ []) (hother : base.sameHosts d.current = false) :
    d.adopt base scores = ({ d with current := base.ranked scores }, true) := by
  have hne : base.ranked scores ≠ d.current := by
    intro heq
    rw [← heq, HostMap.sameHosts_ranked] at hother
    cases hother
  simp [adopt, hscores, hne]

end Directory

namespace SharedDirectory

variable {α : Type}

/-! ### With the lock -/

/-- Operation `i` is past taking the lock and not past releasing it. -/
def HasLock (s : SharedDirectory α) (i : Nat) : Prop :=
  ∃ p, s.processes[i]? = some p ∧ p.stage.IsInside

/-- Operation `i` has the lock afterwards, and the map in use is what it was. -/
def Keeps (i : Nat) (s s' : SharedDirectory α) : Prop :=
  s'.HasLock i ∧ s'.directory.current = s.directory.current ∧ s'.stores = s.stores

section Lock

variable {initial : HostMap} {s : SharedDirectory α} {i : Nat}

theorem HasLock.put_other (h : s.HasLock i) {j : Nat} (hj : j ≠ i) (op : Operation)
    (stage : Stage α) : (s.put j op stage).HasLock i := by
  obtain ⟨p, hp, hinside⟩ := h
  refine ⟨p, ?_, hinside⟩
  rw [put, List.getElem?_set_ne hj, hp]

/-- At most one operation has the lock. -/
theorem IsLocked.eq_of_hasLock (h : s.IsLocked initial) {j : Nat} (hi : s.HasLock i)
    (hj : s.HasLock j) : i = j := by
  obtain ⟨p, hp, hpi⟩ := hi
  obtain ⟨q, hq, hqi⟩ := hj
  have hheld := h.holder i p hp hpi
  rw [h.holder j q hq hqi, Option.some_inj] at hheld
  exact hheld.symm

variable [Scalar α]

/-- **A step of another operation** leaves the lock and the map in use alone. -/
theorem HasLock.move_other (h : s.IsLocked initial) (hi : s.HasLock i) {j : Nat} (hj : j ≠ i)
    {p : Process α} (hp : s.processes[j]? = some p) :
    Keeps i s (s.move j p.operation p.stage) := by
  have houtside : ¬ p.stage.IsInside := fun hinside =>
    hj (h.eq_of_hasLock ⟨p, hp, hinside⟩ hi)
  obtain ⟨op, stage⟩ := p
  have hput (stage : Stage α) : Keeps i s (s.put j op stage) :=
    ⟨hi.put_other hj op stage, rfl, rfl⟩
  cases stage with
  | called => exact hput _
  | admitted => exact hput _
  | addressed host => exact hput _
  | asked host => exact ⟨hi, rfl, rfl⟩
  | queued fetched =>
    -- the lock is not free
    obtain ⟨q, hq, hinside⟩ := hi
    have hheld : s.holder ≠ none := by simp [h.holder i q hq hinside]
    rw [SharedDirectory.move, if_neg hheld]
    exact ⟨⟨q, hq, hinside⟩, rfl, rfl⟩
  | entered fetched => exact absurd trivial houtside
  | scoring base => exact absurd trivial houtside
  | scored base scores => exact absurd trivial houtside
  | leaving answer => exact absurd trivial houtside
  | finished answer => exact ⟨hi, rfl, rfl⟩

/-- **No event but its own steps** takes the lock from an operation, or changes the map in use
meanwhile. -/
theorem HasLock.step (h : s.IsLocked initial) (hi : s.HasLock i) {e : Event α}
    (he : e ≠ .move i) : Keeps i s (s.step e) := by
  cases e with
  | call op =>
    obtain ⟨p, hp, hinside⟩ := hi
    refine ⟨⟨p, ?_, hinside⟩, rfl, rfl⟩
    obtain ⟨hlt, -⟩ := List.getElem?_eq_some_iff.1 hp
    exact (List.getElem?_append_left hlt).trans hp
  | shut => exact ⟨hi, rfl, rfl⟩
  | move j =>
    have hj : j ≠ i := fun hji => he (hji ▸ rfl)
    simp only [SharedDirectory.step]
    cases hp : s.processes[j]? with
    | none => exact ⟨hi, rfl, rfl⟩
    | some p => exact hi.move_other h hj hp
  | reply j fetched =>
    simp only [SharedDirectory.step]
    split
    next op host hp =>
      have hj : j ≠ i := by
        rintro rfl
        obtain ⟨q, hq, hinside⟩ := hi
        rw [hp] at hq
        cases hq
        exact hinside
      exact ⟨hi.put_other hj op _, rfl, rfl⟩
    · exact ⟨hi, rfl, rfl⟩
  | score j scores =>
    simp only [SharedDirectory.step]
    split
    next op base hp =>
      refine ⟨?_, rfl, rfl⟩
      -- the scores may be those the operation waits for: then it has the lock still
      by_cases hj : j = i
      · subst hj
        obtain ⟨hlt, -⟩ := List.getElem?_eq_some_iff.1 hp
        refine ⟨⟨op, .scored base scores⟩, ?_, trivial⟩
        rw [put, List.getElem?_set_self hlt]
      · exact hi.put_other hj op _
    · exact ⟨hi, rfl, rfl⟩

/-- **Whoever has the lock is not overtaken**: whatever happens until its own next step, it has
the lock, and the map in use is what it was. -/
theorem HasLock.run (h : s.IsLocked initial) (hi : s.HasLock i) {events : List (Event α)}
    (hevents : .move i ∉ events) : Keeps i s (s.run events) := by
  induction events generalizing s with
  | nil => exact ⟨hi, rfl, rfl⟩
  | cons e events ih =>
    rw [List.mem_cons, not_or] at hevents
    obtain ⟨hhas, hcurrent, hstores⟩ := hi.step h (Ne.symm hevents.1)
    obtain ⟨hhas', hcurrent', hstores'⟩ := ih (h.step e) hhas hevents.2
    exact ⟨hhas', hcurrent'.trans hcurrent, hstores'.trans hstores⟩

end Lock

/-! ### Before the lock -/

section Overtaking

variable [Scalar α]

/-- The rest of a refresh that asked the server: the reply comes, and it goes on to its end. -/
def answered (i : Nat) (base : HostMap) (scores : List (Score α)) : List (Event α) :=
  [.reply i (.found base), .move i, .move i, .score i scores, .move i, .move i]

/-- Two refreshes: the first one asks first and is answered last. -/
def overtaking (base₁ base₂ : HostMap) (scores₁ scores₂ : List (Score α)) : List (Event α) :=
  [.call .refresh, .call .refresh, .move 0, .move 0, .move 0, .move 1, .move 1, .move 1] ++
    answered 1 base₂ scores₂ ++ answered 0 base₁ scores₁

/-- **The map that was asked for first replaces the one that was asked for later**, if the
reply comes later and the hosts are others. -/
theorem run_overtaking {d : Directory} (hopen : d.isShut = false) {base₁ base₂ : HostMap}
    {scores₁ scores₂ : List (Score α)} (hscores₁ : scores₁ ≠ []) (hscores₂ : scores₂ ≠ [])
    (hother₂ : base₂.sameHosts d.current = false)
    (hother₁ : base₁.sameHosts (base₂.ranked scores₂) = false) :
    let s := (start d true).run (overtaking base₁ base₂ scores₁ scores₂)
    s.directory.current = base₁.ranked scores₁ ∧
      s.stores = [⟨0, .refresh, base₁, base₁.ranked scores₁⟩,
        ⟨1, .refresh, base₂, base₂.ranked scores₂⟩] := by
  obtain ⟨current, isShut⟩ := d
  cases hopen
  have hadopt₂ := Directory.adopt_of_otherHosts ⟨current, false⟩ hscores₂ hother₂
  have hadopt₁ := Directory.adopt_of_otherHosts ⟨base₂.ranked scores₂, false⟩ hscores₁ hother₁
  simp [overtaking, answered, start, run, step, move, put, Stage.admission, Stage.ofReply,
    Stage.entry, adopt, hother₂, hother₁, hadopt₂, hadopt₁]

end Overtaking

end SharedDirectory

end Courier
