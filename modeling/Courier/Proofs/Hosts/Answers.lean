import Courier.Number.Binary64
import Courier.Proofs.Hosts.SharedDirectory

/-!
# What an operation answers is what it did

An operation that runs without others in between (`Courier.SharedDirectory.Operation.atOnce`)
says whether it changed the map in use. This file shows that it **tells the truth**, whatever
the server and the scores were (`Courier.SharedDirectory.Operation.answer_tells_truth`).

| the answer | what it stands for |
|---|---|
| a change (`Answer.isChange`) | another map is in use, and it is the base of the operation, ranked |
| anything else | the directory is what it was |

All three operations change a directory through `Courier.Directory.adopt` alone, so it is
enough to know what that says (`Courier.Directory.isTruthful_adopt`). A rescore that is repeated
with the same scores finds everything in order (`Courier.Directory.adopt_adopt`): ranking
twice is ranking once.
-/

namespace Courier

namespace Directory

variable {α : Type} [Scalar α]

/-- What was told of a change from one directory to another is true: it was told exactly if
another map is in use, and then that map is a base map ranked by scores; if it was not told,
nothing was changed, and without scores nothing is. -/
structure IsTruthful (d : Directory) (base? : Option HostMap) (scores : List (Score α))
    (d' : Directory) (told : Bool) : Prop where
  told_iff : told = true ↔ d'.current ≠ d.current
  ranked : told = true → ∃ base ∈ base?, d'.current = base.ranked scores
  kept : told = false → d' = d
  kept_of_noScores : scores = [] → d' = d

/-- To change nothing and to tell of no change. -/
theorem isTruthful_kept (d : Directory) (base? : Option HostMap) (scores : List (Score α)) :
    IsTruthful d base? scores d false where
  told_iff := by simp
  ranked := by simp
  kept _ := rfl
  kept_of_noScores _ := rfl

/-- **Adopting a map tells the truth.** -/
theorem isTruthful_adopt (d : Directory) (base : HostMap) (scores : List (Score α)) :
    IsTruthful d (some base) scores (d.adopt base scores).1 (d.adopt base scores).2 := by
  rw [adopt]
  split
  · exact isTruthful_kept d _ scores
  · rename_i hscores
    dsimp only
    split
    · exact isTruthful_kept d _ scores
    · rename_i hother
      refine ⟨by simpa using hother, fun _ => ⟨base, rfl, rfl⟩, by simp, ?_⟩
      rintro rfl
      exact absurd rfl hscores

/-- **What was just adopted is in order**, so ranking it again by the same scores brings no
change. -/
theorem adopt_adopt [LawfulScalar α] (d : Directory) (base : HostMap)
    (scores : List (Score α)) :
    ((d.adopt base scores).1.adopt (d.adopt base scores).1.current scores).2 = false := by
  by_cases hscores : scores = []
  · simp [adopt, hscores]
  · have hcurrent := current_adopt d base hscores
    have hranked : (d.adopt base scores).1.current.ranked scores
        = (d.adopt base scores).1.current := by
      rw [hcurrent, HostMap.ranked_ranked]
    rw [adopt.eq_1 (d.adopt base scores).1, hranked]
    simp

end Directory

namespace SharedDirectory

/-- Whether an answer tells of a change. -/
def Answer.isChange : Answer → Bool
  | .changed isChanged => isChanged
  | .refreshed r => r = .applied

namespace Operation

/-- The map that an operation ranks, if it ranks one. -/
def base? (d : Directory) (fetched : Fetched) : Operation → Option HostMap
  | .rescore => some d.current
  | .rebase base => some base
  | .refresh =>
    match fetched with
    | .found base => some base
    | _ => none

theorem isChange_answer (op : Operation) (isChanged : Bool) :
    (op.answer isChanged).isChange = isChanged := by
  cases op <;> cases isChanged <;> rfl

theorem isChange_refusal (op : Operation) : op.refusal.isChange = false := by
  cases op <;> rfl

section AtOnce

variable {α : Type} [Scalar α] {d : Directory} (isRemote : Bool) (fetched : Fetched)
  (scores : List (Score α))

theorem atOnce_of_isShut (hs : d.isShut = true) (op : Operation) :
    op.atOnce d isRemote fetched scores = (d, op.refusal) := by
  cases op <;> cases isRemote <;>
    simp [atOnce, Directory.rescore, Directory.rebase, Directory.refresh, hs, refusal]

theorem atOnce_rescore (hs : d.isShut = false) :
    rescore.atOnce d isRemote fetched scores
      = ((d.adopt d.current scores).1, .changed (d.adopt d.current scores).2) := by
  simp [atOnce, Directory.rescore, Directory.scoreAndAdopt, hs]

theorem atOnce_rebase (hs : d.isShut = false) (base : HostMap) :
    (rebase base).atOnce d isRemote fetched scores
      = ((d.adopt base scores).1, .changed (d.adopt base scores).2) := by
  simp [atOnce, Directory.rebase, Directory.scoreAndAdopt, hs]

/-- A refresh changes nothing unless it gets a map with other hosts, which it adopts. -/
theorem atOnce_refresh (hs : d.isShut = false) :
    refresh.atOnce d true fetched scores =
      match fetched with
      | .notFound => (d, .refreshed .notFound)
      | .rejected => (d, .refreshed .rejected)
      | .exhausted => (d, .refreshed .exhausted)
      | .found base =>
        if base.sameHosts d.current then (d, .refreshed .unchanged)
        else ((d.adopt base scores).1, refresh.answer (d.adopt base scores).2) := by
  cases fetched with
  | notFound | rejected | exhausted =>
    simp [atOnce, Directory.refresh, Directory.applyFetched, hs]
  | found base =>
    by_cases hsame : base.sameHosts d.current = true
    · simp [atOnce, Directory.refresh, Directory.applyFetched, hs, hsame]
    · rcases d.adopt_eq_or base scores with h | h <;>
        simp [atOnce, Directory.refresh, Directory.applyFetched, Directory.scoreAndAdopt, hs,
          hsame, h, answer]

/-- **What an operation does**: it changes nothing and tells of no change, or it adopts its
base and tells what came of that. -/
theorem atOnce_eq_or (op : Operation) :
    (∃ a : Answer, a.isChange = false ∧ op.atOnce d isRemote fetched scores = (d, a)) ∨
      ∃ base ∈ op.base? d fetched, op.atOnce d isRemote fetched scores
        = ((d.adopt base scores).1, op.answer (d.adopt base scores).2) := by
  cases hs : d.isShut with
  | true =>
    exact Or.inl ⟨_, isChange_refusal op, atOnce_of_isShut isRemote fetched scores hs op⟩
  | false =>
    cases op with
    | rescore => exact Or.inr ⟨_, rfl, atOnce_rescore isRemote fetched scores hs⟩
    | rebase base => exact Or.inr ⟨_, rfl, atOnce_rebase isRemote fetched scores hs base⟩
    | refresh =>
      cases isRemote with
      | false => exact Or.inl ⟨.refreshed .skipped, rfl, rfl⟩
      | true =>
        rw [atOnce_refresh fetched scores hs]
        cases fetched with
        | notFound | rejected | exhausted => exact Or.inl ⟨_, rfl, rfl⟩
        | found base =>
          dsimp only
          split
          · exact Or.inl ⟨_, rfl, rfl⟩
          · exact Or.inr ⟨base, rfl, rfl⟩

/-- **Every operation tells the truth.** -/
theorem isTruthful_atOnce (op : Operation) :
    Directory.IsTruthful d (op.base? d fetched) scores
      (op.atOnce d isRemote fetched scores).1
      (op.atOnce d isRemote fetched scores).2.isChange := by
  rcases atOnce_eq_or isRemote fetched scores op with ⟨a, ha, heq⟩ | ⟨base, hbase, heq⟩
  · rw [heq]
    dsimp only
    rw [ha]
    exact Directory.isTruthful_kept d _ scores
  · rw [heq]
    dsimp only
    rw [isChange_answer, Option.mem_def.1 hbase]
    exact d.isTruthful_adopt base scores

/-- After an operation that ranked by scores, a rescore by the same scores brings no change. -/
theorem atOnce_rescore_again [LawfulScalar α] {op : Operation} (hop : op ≠ .refresh)
    (isRemote' : Bool) (fetched' : Fetched) :
    (rescore.atOnce (op.atOnce d isRemote fetched scores).1 isRemote' fetched' scores).2
      = .changed false := by
  cases hs : d.isShut with
  | true =>
    rw [atOnce_of_isShut isRemote fetched scores hs]
    dsimp only
    rw [atOnce_of_isShut isRemote' fetched' scores hs]
    rfl
  | false =>
    have hagain : ∀ base, (rescore.atOnce (d.adopt base scores).1 isRemote' fetched' scores).2
        = .changed false := by
      intro base
      rw [atOnce_rescore isRemote' fetched' scores ((d.isShut_adopt base scores).trans hs),
        d.adopt_adopt base scores]
    cases op with
    | rescore =>
      rw [atOnce_rescore isRemote fetched scores hs]
      exact hagain d.current
    | rebase base =>
      rw [atOnce_rebase isRemote fetched scores hs]
      exact hagain base
    | refresh => exact absurd rfl hop

end AtOnce

/-- **What an operation answers is what it did**, whatever the server and the scores are. It
tells of a change exactly if another map is in use, and that map is its base, ranked by the
scores of its pass; every other answer leaves the directory as it was, and so do scores of no
host. A rescore by the same scores brings no change any more. -/
theorem answer_tells_truth (op : Operation) (d : Directory) (isRemote : Bool)
    (fetched : Fetched) (scores : List (Score Binary64)) :
    let result := op.atOnce d isRemote fetched scores
    (result.2.isChange = true ↔ result.1.current ≠ d.current) ∧
      (result.2.isChange = true →
        ∃ base ∈ op.base? d fetched, result.1.current = base.ranked scores) ∧
      (result.2.isChange = false → result.1 = d ∧ ∀ path, result.1.host path = d.host path) ∧
      (scores = [] → result.1 = d) ∧
      (op ≠ .refresh → ∀ isRemote' fetched',
        (rescore.atOnce result.1 isRemote' fetched' scores).2 = .changed false) := by
  intro result
  have htrue := isTruthful_atOnce (d := d) isRemote fetched scores op
  refine ⟨htrue.told_iff, htrue.ranked, fun hkept => ?_, htrue.kept_of_noScores, fun hop => ?_⟩
  · have heq : result.1 = d := htrue.kept hkept
    exact ⟨heq, fun path => by rw [heq]⟩
  · exact atOnce_rescore_again isRemote fetched scores hop

end Operation

end SharedDirectory

end Courier
