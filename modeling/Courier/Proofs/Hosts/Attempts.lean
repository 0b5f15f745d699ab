import Courier.Exchange.Script
import Courier.Proofs.Exchange.Requests
import Courier.Proofs.Hosts.ProjectAddress
import Mathlib.Data.List.Forall2
import Mathlib.Order.Bounds.Defs

/-!
# How often a host map is asked for

Fetching is a number of **attempts** with a wait after each but the last. All attempts send the
same request, a `GET` to the address of the project through the host. What is asked of the outside
in this is a course (`Courier.Fetcher.course`): a request and the wait after it, again and again,
and then the last request. One round of the loop adds one request and one wait in front
(`Courier.Fetcher.exists_run_attempts`), so the whole loop ends after `k` requests, where `k` is
the least number of an attempt that is conclusive or the last one
(`Courier.Fetcher.exists_run_fetch`).

| what came of a request | is it conclusive? |
|---|---|
| a reply with status 404, whatever becomes of its body | yes: there is no map |
| a reply with a status from 200 to 299 and a body that is not empty | yes: what the body says |
| another reply, a body that is empty or broken off, no reply | no |

Whether there is a request is a matter of the host alone. A name or a name with a port always
gives one, whatever the identifier of the project; a host with which the text is no address gives
none, and then there is nothing but the waits.

Attempts are counted from one by a number that never passes the number of attempts allowed. So
it may be one of 32 bits (`Courier.Fetcher.fetch_eq_counted`).
-/

namespace Courier

/-- A wait that can follow an attempt: the least one and a random part. -/
def Backoff.IsWait (b : Backoff) (attempt wait : Nat) : Prop :=
  b.least attempt ≤ wait ∧ wait < b.least attempt + b.spread attempt

/-- What comes of the request of a number, counted from one, that is sent from here on. -/
def Playback.outcome (w : Playback) (number : Nat) : Outcome :=
  (w.script.exchange (w.sent.length + (number - 1))).outcome

namespace Fetcher

/-! ### What is conclusive -/

/-- **What a conclusive outcome says.** -/
inductive Concludes : Outcome → Fetched → Prop
  | notFound {o : Outcome} (h : o.statusCode? = some 404) : Concludes o .notFound
  | ofBody {r : Reply} (hstatus : 200 ≤ r.status ∧ r.status < 300) (hbody : r.body ≠ []) :
    Concludes (.reply r) (ofBody r.body)

theorem conclusion?_eq_some_iff {o : Outcome} {r : Fetched} :
    conclusion? o = some r ↔ Concludes o r := by
  constructor
  · intro h
    unfold conclusion? at h
    split at h
    next reply =>
      split at h
      next hstatus =>
        cases h
        exact .notFound (congrArg some hstatus)
      next =>
        split at h
        next hbody =>
          cases h
          simp only [isSuccess, Bool.and_eq_true, decide_eq_true_eq, Bool.not_eq_true',
            List.isEmpty_eq_false_iff] at hbody
          exact .ofBody hbody.1 hbody.2
        next => cases h
    next status headers fault =>
      split at h
      next hstatus =>
        cases h
        exact .notFound (congrArg some hstatus)
      next => cases h
    next => cases h
  · rintro (h | @⟨reply, hstatus, hbody⟩)
    · cases o with
      | reply reply => exact if_pos (Option.some.inj h)
      | cut status headers fault => exact if_pos (Option.some.inj h)
      | failed fault => cases h
    · have hne : reply.status ≠ 404 := by omega
      simp [conclusion?, isSuccess, hne, hstatus, hbody]

/-- A conclusion is never that there is none. -/
theorem Concludes.ne_exhausted {o : Outcome} {r : Fetched} (h : Concludes o r) :
    r ≠ .exhausted := by
  cases h with
  | notFound => exact nofun
  | @ofBody reply =>
    unfold Fetcher.ofBody
    split <;> exact nofun

theorem conclusion?_eq_none_iff {o : Outcome} :
    conclusion? o = none ↔ ∀ r, ¬Concludes o r := by
  simp only [← conclusion?_eq_some_iff, Option.eq_none_iff_forall_ne_some, ne_eq]

theorem getD_conclusion?_eq_exhausted_iff {o : Outcome} :
    (conclusion? o).getD .exhausted = .exhausted ↔ ∀ r, ¬Concludes o r := by
  rw [← conclusion?_eq_none_iff]
  constructor
  · intro h
    cases hsaid : conclusion? o with
    | none => rfl
    | some r =>
      rw [hsaid, Option.getD_some] at h
      exact absurd h (conclusion?_eq_some_iff.1 hsaid).ne_exhausted
  · intro h
    rw [h, Option.getD_none]

/-! ### What is asked of the outside -/

/-- What fetching asks of the outside, one thing after another. -/
inductive Act where
  | request (q : Request)
  /-- The wait after the attempt of this number. -/
  | wait (number : Nat)

/-- **The course of fetching**: attempts from a number on that send a request, if there is one, each
with the wait after it, and then the last. -/
def course (q? : Option Request) (number : Nat) : (others : Nat) → List Act
  | 0 => q?.toList.map .request
  | others + 1 => q?.toList.map .request ++ .wait number :: course q? (number + 1) others

/-- Acts one after another, from one place in a script to another. -/
inductive Runs (b : Backoff) : Playback → List Act → Playback → Prop
  | nil {w : Playback} : Runs b w [] w
  | request {w w' : Playback} {q : Request} {acts : List Act}
    (others : Runs b { w with sent := w.sent ++ [q] } acts w') : Runs b w (.request q :: acts) w'
  | wait {w w' : Playback} {number wait : Nat} {acts : List Act} (isWait : b.IsWait number wait)
    (others : Runs b { w with draws := w.draws + 1, pauses := w.pauses ++ [wait] } acts w') :
    Runs b w (.wait number :: acts) w'

/-- The requests among acts. -/
def requestsIn : List Act → List Request
  | [] => []
  | .request q :: acts => q :: requestsIn acts
  | .wait _ :: acts => requestsIn acts

/-- The numbers of the attempts after which there is a wait. -/
def waitsIn : List Act → List Nat
  | [] => []
  | .request _ :: acts => waitsIn acts
  | .wait number :: acts => number :: waitsIn acts

/-- **What acts leave behind**: their requests are sent, and each wait is one pause. -/
theorem Runs.sent_and_pauses {b : Backoff} {w w' : Playback} {acts : List Act}
    (h : Runs b w acts w') :
    w'.sent = w.sent ++ requestsIn acts
      ∧ ∃ waits, w'.pauses = w.pauses ++ waits ∧ List.Forall₂ b.IsWait (waitsIn acts) waits := by
  induction h with
  | nil => exact ⟨(List.append_nil _).symm, [], (List.append_nil _).symm, .nil⟩
  | @request w w' q acts _ ih =>
    obtain ⟨hsent, hpauses⟩ := ih
    refine ⟨?_, hpauses⟩
    rw [hsent, List.append_assoc, requestsIn, List.singleton_append]
  | @wait w w' number wait acts hwait _ ih =>
    obtain ⟨hsent, waits, hpauses, hwaits⟩ := ih
    refine ⟨hsent, wait :: waits, ?_, .cons hwait hwaits⟩
    rw [hpauses, List.append_assoc, List.singleton_append]

theorem requestsIn_course (q : Request) (number others : Nat) :
    requestsIn (course (some q) number others) = List.replicate (others + 1) q := by
  induction others generalizing number with
  | zero => rfl
  | succ others ih => exact congrArg (q :: ·) (ih (number + 1))

theorem requestsIn_course_none (number others : Nat) :
    requestsIn (course none number others) = [] := by
  induction others generalizing number with
  | zero => rfl
  | succ others ih => exact ih (number + 1)

theorem waitsIn_course (q? : Option Request) (number others : Nat) :
    waitsIn (course q? number others) = List.range' number others := by
  induction others generalizing number with
  | zero => cases q? <;> rfl
  | succ others ih =>
    have hrest := congrArg (number :: ·) (ih (number + 1))
    cases q? <;> exact hrest

/-! ### What fetching does -/

variable (f : Fetcher) (host : String)

/-- The request of an attempt, if the address is one. -/
def request? : Option Request := Request.to? "GET" (f.address host) f.timeout

/-- What an attempt says that comes after so many others from a place in a script. -/
def answer? (w : Playback) (others : Nat) : Option Fetched :=
  (f.request? host).bind fun _ => conclusion? (w.outcome (others + 1))

theorem answer?_of_some {q : Request} (hq : f.request? host = some q) (w : Playback)
    (others : Nat) : f.answer? host w others = conclusion? (w.outcome (others + 1)) := by
  rw [answer?, hq, Option.bind_some]

theorem answer?_of_none (hq : f.request? host = none) (w : Playback) (others : Nat) :
    f.answer? host w others = none := by
  rw [answer?, hq, Option.bind_none]

/-- The place in a script after an attempt. -/
def attempted (w : Playback) : Playback := { w with sent := w.sent ++ (f.request? host).toList }

/-- **An attempt sends its request**, if there is one, and says what is answered to it. -/
theorem run_attempt (w : Playback) :
    (f.attempt host : OnScript _).run w = pure (f.answer? host w 0, f.attempted host w) := by
  unfold attempt answer? attempted request?
  cases Request.to? "GET" (f.address host) f.timeout with
  | none => simp
  | some r => rfl

/-- The request of an attempt comes before what is done after it. -/
theorem Runs.of_attempted {b : Backoff} {w w' : Playback} {acts : List Act}
    (h : Runs b (f.attempted host w) acts w') :
    Runs b w ((f.request? host).toList.map .request ++ acts) w' := by
  unfold attempted at h
  cases hq : f.request? host with
  | none =>
    rw [hq, Option.toList_none, List.append_nil] at h
    exact h
  | some q =>
    rw [hq] at h
    exact .request h

/-- The wait after the attempt of a number, at a place in a script. -/
def waitAt (number : Nat) (w : Playback) : Nat :=
  f.policy.backoff.wait number (w.script.draw w.draws % f.policy.backoff.spread number)

theorem isWait_waitAt (number : Nat) (w : Playback) :
    f.policy.backoff.IsWait number (f.waitAt number w) :=
  ⟨Nat.le_add_right _ _, Backoff.wait_lt _ _ _⟩

/-- The place in a script after a wait. -/
def waited (number : Nat) (w : Playback) : Playback :=
  { w with draws := w.draws + 1, pauses := w.pauses ++ [f.waitAt number w] }

/-- What the next attempt says is what this one would say after one more. -/
theorem answer?_waited (w : Playback) (number others : Nat) :
    f.answer? host (f.waited number (f.attempted host w)) others
      = f.answer? host w (others + 1) := by
  unfold answer? waited attempted Playback.outcome
  cases f.request? host with
  | none => rfl
  | some r =>
    dsimp only [Option.bind_some, Option.toList_some]
    rw [List.length_append, List.length_singleton, Nat.add_sub_cancel, Nat.add_sub_cancel,
      Nat.add_assoc, Nat.add_comm 1]

/-- **The loop**, from the attempt of a number on, runs a course: it goes on as long as an
attempt says nothing and there may be more. -/
theorem exists_run_attempts (more number : Nat) (w : Playback) :
    ∃ others w', others ≤ more ∧ (∀ i < others, f.answer? host w i = none)
      ∧ (others < more → f.answer? host w others ≠ none)
      ∧ (f.attempts host more number : OnScript _).run w
        = pure ((f.answer? host w others).getD .exhausted, w')
      ∧ Runs f.policy.backoff w (course (f.request? host) number others) w' := by
  have hone (number : Nat) (w : Playback) :
      Runs f.policy.backoff w (course (f.request? host) number 0) (f.attempted host w) := by
    have hruns := Runs.of_attempted f host (b := f.policy.backoff) (w := w) .nil
    rwa [List.append_nil] at hruns
  induction more generalizing number w with
  | zero =>
    refine ⟨0, f.attempted host w, Nat.le_refl 0, by simp, by simp, ?_, hone number w⟩
    rw [attempts, StateT.run_bind, run_attempt]
    rfl
  | succ more ih =>
    cases hanswer : f.answer? host w 0 with
    | some r =>
      refine ⟨0, f.attempted host w, by omega, by simp, by simp [hanswer], ?_, hone number w⟩
      rw [attempts, StateT.run_bind, run_attempt, hanswer]
      rfl
    | none =>
      -- the rest of the loop, seen from behind the first attempt and its wait
      obtain ⟨others, w', hle, hbefore, hstop, hrun, hruns⟩ :=
        ih (number + 1) (f.waited number (f.attempted host w))
      simp only [answer?_waited] at hbefore hstop hrun
      refine ⟨others + 1, w', by omega, fun i hi => ?_, fun hlt => hstop (by omega), ?_,
        .of_attempted f host (.wait (f.isWait_waitAt number _) hruns)⟩
      · cases i with
        | zero => exact hanswer
        | succ i => exact hbefore i (by omega)
      · rw [attempts, StateT.run_bind, run_attempt, hanswer]
        exact hrun

/-! ### A counter of 32 bits -/

/-- A number of 32 bits that is below another has a successor. -/
theorem toNat_succ {number limit : UInt32} (h : number < limit) :
    (number + 1).toNat = number.toNat + 1 := by
  have hlt := UInt32.lt_iff_toNat_lt.1 h
  have hlimit := limit.toNat_lt
  rw [UInt32.toNat_add, UInt32.toNat_one]
  omega

section Counter

variable {m : Type → Type} [Monad m] [Outside m]

/-- Attempts counted by a number of 32 bits, from a number on up to a limit. -/
def counted (limit number : UInt32) : m Fetched := do
  match ← f.attempt host with
  | some r => return r
  | none =>
    if h : number < limit then
      f.policy.backoff.rest number.toNat
      counted limit (number + 1)
    else return .exhausted
termination_by limit.toNat - number.toNat
decreasing_by
  have hnext := toNat_succ h
  have hlt := UInt32.lt_iff_toNat_lt.1 h
  omega

/-- **The counter never passes its limit**, so counting by a number of 32 bits is the same. -/
theorem attempts_eq_counted {limit number : UInt32} (h : number ≤ limit) :
    (f.attempts host (limit.toNat - number.toNat) number.toNat : m Fetched)
      = f.counted host limit number := by
  have hle := UInt32.le_iff_toNat_le.1 h
  induction hmore : limit.toNat - number.toNat generalizing number with
  | zero =>
    have hnot : ¬ number < limit := by
      rw [UInt32.lt_iff_toNat_lt]
      omega
    rw [attempts, counted]
    refine congrArg (f.attempt host >>= ·) (funext fun answer => ?_)
    cases answer with
    | some r => rfl
    | none =>
      dsimp only
      rw [dif_neg hnot]
      rfl
  | succ more ih =>
    have hlt : number < limit := by
      rw [UInt32.lt_iff_toNat_lt]
      omega
    have hnext := toNat_succ hlt
    have hle' : number + 1 ≤ limit := by
      rw [UInt32.le_iff_toNat_le]
      omega
    have hrest := ih hle' (by omega) (by omega)
    rw [attempts, counted]
    refine congrArg (f.attempt host >>= ·) (funext fun answer => ?_)
    cases answer with
    | some r => rfl
    | none =>
      dsimp only
      rw [dif_pos hlt, ← hrest, hnext]

end Counter

/-! ### The whole loop -/

/-- **How fetching ends** with a request, from one place in a script to another: after `k` of the
attempts that are allowed, with a result. -/
structure EndsAfter (b : Backoff) (q : Request) (w : Playback) (allowed k : Nat) (r : Fetched)
    (w' : Playback) : Prop where
  /-- The first attempt that is conclusive, or the last that is allowed. -/
  isLeast : IsLeast {n | 1 ≤ n ∧ (n = allowed ∨ ∃ r, Concludes (w.outcome n) r)} k
  concluded : ∀ r', Concludes (w.outcome k) r' → r = r'
  exhausted_iff : r = .exhausted ↔ ∀ n, 1 ≤ n → n ≤ allowed → ∀ r', ¬Concludes (w.outcome n) r'
  runs : Runs b w (course (some q) 1 (k - 1)) w'
  sent : w'.sent = w.sent ++ List.replicate k q
  pauses : ∃ waits, w'.pauses = w.pauses ++ waits
    ∧ List.Forall₂ b.IsWait (List.range' 1 (k - 1)) waits

/-- With a request, fetching goes on until one of them is conclusive. -/
theorem exists_endsAfter {q : Request} (hq : f.request? host = some q) (w : Playback) :
    ∃ k r w', (f.fetch host : OnScript _).run w = pure (r, w')
      ∧ EndsAfter f.policy.backoff q w f.policy.attempts k r w' := by
  obtain ⟨others, w', hle, hbefore, hstop, hrun, hruns⟩ :=
    f.exists_run_attempts host (f.policy.attempts - 1) 1 w
  simp only [f.answer?_of_some host hq] at hbefore hstop hrun
  rw [hq] at hruns
  have hone := f.policy.one_le_attempts
  have hnone (n : Nat) (hn : 1 ≤ n) (hlt : n < others + 1) : ∀ r, ¬Concludes (w.outcome n) r := by
    obtain ⟨i, rfl⟩ : ∃ i, n = i + 1 := ⟨n - 1, by omega⟩
    exact conclusion?_eq_none_iff.1 (hbefore i (by omega))
  obtain ⟨hsent, hpauses⟩ := hruns.sent_and_pauses
  rw [requestsIn_course] at hsent
  rw [waitsIn_course] at hpauses
  refine ⟨others + 1, _, w', hrun, ⟨⟨by omega, ?_⟩, ?_⟩, ?_, ?_, hruns, hsent, hpauses⟩
  · by_cases hlast : others < f.policy.attempts - 1
    · obtain ⟨r, hr⟩ := Option.ne_none_iff_exists'.1 (hstop hlast)
      exact Or.inr ⟨r, conclusion?_eq_some_iff.1 hr⟩
    · exact Or.inl (by omega)
  · rintro n ⟨hn, hlast | ⟨r, hr⟩⟩
    · omega
    · by_contra hlt
      exact hnone n hn (by omega) r hr
  · intro r hr
    rw [conclusion?_eq_some_iff.2 hr, Option.getD_some]
  · rw [getD_conclusion?_eq_exhausted_iff]
    constructor
    · intro hnothing n hn hle'
      -- the loop went on to the last attempt, and it says nothing either
      have hlast : others = f.policy.attempts - 1 := by
        by_contra hne
        exact hstop (by omega) (conclusion?_eq_none_iff.2 hnothing)
      by_cases hlt : n < others + 1
      · exact hnone n hn hlt
      · obtain rfl : n = others + 1 := by omega
        exact hnothing
    · intro h
      exact h (others + 1) (by omega) (by omega)

/-- Without a request, fetching waits between its attempts and finds nothing. -/
theorem exists_run_fetch_of_none (hq : f.request? host = none) (w : Playback) :
    ∃ w', (f.fetch host : OnScript _).run w = pure (.exhausted, w')
      ∧ Runs f.policy.backoff w (course none 1 (f.policy.attempts - 1)) w' ∧ w'.sent = w.sent := by
  obtain ⟨others, w', hle, -, hstop, hrun, hruns⟩ :=
    f.exists_run_attempts host (f.policy.attempts - 1) 1 w
  simp only [f.answer?_of_none host hq, ne_eq, not_true, imp_false] at hstop hrun
  obtain rfl : others = f.policy.attempts - 1 := by omega
  rw [hq] at hruns
  refine ⟨w', hrun, hruns, ?_⟩
  rw [hruns.sent_and_pauses.1, requestsIn_course_none, List.append_nil]

/-- Fetching may count its attempts with 32 bits, as long as their limit has no more. -/
theorem fetch_eq_counted {m : Type → Type} [Monad m] [Outside m] {limit : UInt32}
    (h : f.policy.attempts = limit.toNat) :
    (f.fetch host : m Fetched) = f.counted host limit 1 := by
  have hfirst : 1 ≤ limit := by
    rw [UInt32.le_iff_toNat_le, ← h]
    exact f.policy.one_le_attempts
  rw [fetch, h, ← attempts_eq_counted f host hfirst]
  rfl

/-- **Fetching ends**, whatever is answered. It asks by `GET` for the host map of the project, each
time with the same request to the same address, and makes as many requests as there are attempts
up to the first that is conclusive, or up to the last that is allowed. What is answered to the last
of them is the result, and that nothing was conclusive is the result exactly if none of the
attempts that are allowed is. After each attempt but the last there is a wait. A host that is a
name, with or without a port, has such an address; with a host that has none, nothing is sent and
nothing is found. The number of the attempt never passes the number of attempts allowed, so it may
be counted with 32 bits. -/
theorem exists_run_fetch (projectId : String) (timeout : Nat) (limit : UInt32) (host : String)
    (w : Playback) :
    let f := ofAttempts projectId timeout limit.toNat
    let address := "http://" ++ host ++ "/data/api/sdk/host" ++ "?project_id=" ++ projectId
    let allowed := max limit.toNat 1
    (∀ u, Url.parse address = .ok u → ∃ q k r w', q.GoesTo "GET" u timeout ∧ q.body = []
        ∧ (f.fetch host : OnScript _).run w = pure (r, w')
        ∧ EndsAfter ⟨100, 1000⟩ q w allowed k r w')
      ∧ ((∀ u, Url.parse address ≠ .ok u) →
        ∃ w', (f.fetch host : OnScript _).run w = pure (.exhausted, w')
          ∧ Runs ⟨100, 1000⟩ w (course none 1 (allowed - 1)) w' ∧ w'.sent = w.sent)
      ∧ (∀ t h, HostText.Spells t h → t.text = host →
        ∃ u, Url.parse address = .ok u ∧ AsksFor u h (t.port.filter (· ≠ 80)))
      ∧ (f.fetch host : OnScript _) = f.counted host (max limit 1) 1 := by
  intro f address allowed
  have hlimit : f.policy.attempts = (max limit 1).toNat := by
    rw [UInt32.toNat_max, UInt32.toNat_one]
    rfl
  have haddress : f.address host = address := rfl
  rw [← haddress]
  refine ⟨fun u hparse => ?_, fun hnone => ?_, ?_, f.fetch_eq_counted host hlimit⟩
  · obtain ⟨q, hq, hgoes, hbody, -⟩ :=
      Request.exists_to? hparse (isServed_of_parse_address hparse).hostText?_ne_none "GET" timeout
    obtain ⟨k, r, w', hrun, hends⟩ := f.exists_endsAfter host hq w
    exact ⟨q, k, r, w', hgoes, hbody, hrun, hends⟩
  · have hq : f.request? host = none :=
      Request.to?_eq_none_of (fun u hparse => absurd hparse (hnone u)) "GET" timeout
    exact f.exists_run_fetch_of_none host hq w
  · rintro t h ht rfl
    obtain ⟨u, hparse, hasks, -⟩ := parse_address ht f
    exact ⟨u, hparse, hasks⟩

/-- A host map with one host, as a server sends it. -/
def oneHost : Bytes := utf8 "\x7b\"*\":[\"a\"]\x7d"

/-- A server that fails at first and then sends the host map. -/
def late : Script :=
  { (default : Script) with
    exchange := fun n =>
      { outcome := .reply ⟨if n = 0 then 503 else 200, .empty, oneHost⟩, cost := 0 } }

/-- It is asked twice, and what it says the second time is found. -/
theorem exists_run_fetch_late :
    let f := ofAttempts "p" 5000 3
    ∃ m q w', m.paths.entries = [("*", ["a"])] ∧ q.method = "GET" ∧
      q.url.text = "http://h:8080/data/api/sdk/host?project_id=p" ∧
      (f.fetch "h:8080" : OnScript _).run (.start late) = pure (.found m, w') ∧
      w'.sent = [q, q] ∧ w'.pauses.length = 1 := by
  intro f
  let u : Url := ⟨"http", "", "", some (.name "h"), some 8080,
    .segments ["data", "api", "sdk", "host"], some "project_id=p", none⟩
  have hparse : Url.parse ("http://" ++ "h:8080" ++ "/data/api/sdk/host" ++ "?project_id=" ++ "p")
      = .ok u := by decide +kernel
  have hread : (HostMap.read? oneHost).map (·.paths.entries) = some [("*", ["a"])] := by
    decide +kernel
  obtain ⟨m, hm, hentries⟩ := Option.map_eq_some_iff.1 hread
  obtain ⟨q, k, r, w', hgoes, -, hrun, hends⟩ :=
    (exists_run_fetch "p" 5000 3 "h:8080" (.start late)).1 u hparse
  have hfound : Concludes ((Playback.start late).outcome 2) (.found m) := by
    have hbody : ofBody oneHost = .found m := by rw [ofBody, hm]
    rw [← hbody]
    exact .ofBody (by decide) (by decide)
  have hfirst : ∀ r', ¬Concludes ((Playback.start late).outcome 1) r' :=
    conclusion?_eq_none_iff.1 rfl
  obtain rfl : k = 2 := by
    have hle : k ≤ 2 := hends.isLeast.2 ⟨by decide, .inr ⟨_, hfound⟩⟩
    obtain ⟨hone, hlast | ⟨r', hr'⟩⟩ := hends.isLeast.1
    · rw [hlast] at hle
      exact absurd hle (by decide)
    · have hne : k ≠ 1 := fun he => hfirst r' (he ▸ hr')
      omega
  obtain rfl := hends.concluded _ hfound
  refine ⟨m, q, w', hentries, hgoes.method, ?_, hrun, hends.sent, ?_⟩
  · have hurl : q.url = u := hgoes.url.elim id id
    rw [hurl]
    decide +kernel
  · obtain ⟨waits, hpauses, hwaits⟩ := hends.pauses
    rw [hpauses, Playback.start, List.nil_append, ← hwaits.length_eq]
    rfl

end Fetcher

end Courier
