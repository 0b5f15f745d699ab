import Courier.Proofs.Call.Execution

/-!
# What calls count

All that a call reports goes to the sink of its client. The samples among it keep account of
the call (`Courier.IsAccounted`):

| series | samples |
|---|---|
| `Courier.Series.requestCount` | one of value one for each request that was sent |
| `Courier.Series.requestCost` | one with the time it took for each request that was sent |
| `Courier.Series.commonError` | one of value one if the call failed |

A call sends at most one request, so the first two lines are one sample or none. The third
line has an exception: a call whose request could not be made or signed fails and reports
**nothing**, neither that it was tried nor that it failed.
-/

namespace Courier

/-- The samples of a series among emissions: kind and value of each. -/
def samplesOf (series : String) (l : List (Emission Binary64)) : List (MetricKind × Binary64) :=
  l.filterMap fun
    | .metric e => if e.name = series then some (e.kind, e.value) else none
    | .log _ => none

theorem samplesOf_append (series : String) (l l' : List (Emission Binary64)) :
    samplesOf series (l ++ l') = samplesOf series l ++ samplesOf series l' :=
  List.filterMap_append

/-- The error that a call ended with. -/
def failure? {β : Type} : Except CallError β → Option CallError
  | .ok _ => none
  | .error e => some e

/-- **What a call reports is in accord** with the requests it sent, with the time that took
and with the error it ended with. -/
structure IsAccounted (sent : List Request) (cost : Nat) (error? : Option CallError)
    (l : List (Emission Binary64)) : Prop where
  atMostOne : sent.length ≤ 1
  count : samplesOf Series.requestCount l = sent.map fun _ => (.counter, Scalar.ofNat 1)
  cost : samplesOf Series.requestCost l = sent.map fun _ => (.timer, Scalar.ofNat cost)
  success : error? = none → samplesOf Series.commonError l = []
  failure : ∀ e, error? = some e → e.isInvalid = false →
    samplesOf Series.commonError l = [(.counter, Scalar.ofNat 1)]
  /-- The exception. -/
  silent : ∀ e, error? = some e → e.isInvalid = true → sent = [] ∧ l = []

namespace Caller

variable (c : Caller)

/-! ### The samples among what is reported -/

theorem samplesOf_countFailure (series url kind : String) (more : List String) :
    samplesOf series [c.countFailure url kind more]
      = if Series.commonError = series then [(.counter, Scalar.ofNat 1)] else [] := by
  by_cases h : Series.commonError = series <;> simp [samplesOf, countFailure, h]

/-- A line of the log is no sample. -/
theorem samplesOf_countFailure_logLine (series url kind : String) (more : List String)
    (level : LogLevel) (id message : String) (now : Nat) :
    samplesOf series [c.countFailure url kind more, logLine level id message now]
      = if Series.commonError = series then [(.counter, Scalar.ofNat 1)] else [] := by
  rw [← c.samplesOf_countFailure series url kind more]
  rfl

/-- Whatever the error is, it is counted once. -/
theorem samplesOf_failureEmissions (series url id : String) (e : CallError) (now : Nat) :
    samplesOf series (c.failureEmissions url id e now)
      = if Series.commonError = series then [(.counter, Scalar.ofNat 1)] else [] := by
  cases e with
  | encoding _ _ => exact c.samplesOf_countFailure series url _ []
  | _ => exact c.samplesOf_countFailure_logLine series url _ _ _ id _ now

theorem samplesOf_sentEmissions (series url id : String) (cost now : Nat) :
    samplesOf series (c.sentEmissions url id cost now)
      = (if Series.requestCost = series then [(.timer, Scalar.ofNat cost)] else [])
        ++ (if Series.requestCount = series then [(.counter, Scalar.ofNat 1)] else []) := by
  by_cases hcost : Series.requestCost = series <;>
    by_cases hcount : Series.requestCount = series <;>
      simp [samplesOf, sentEmissions, logLine, hcost, hcount]

/-! ### The ways a call can end -/

/-- A call whose request could not be made. -/
theorem isAccounted_invalid {e : CallError} (he : e.isInvalid = true) (cost : Nat) :
    IsAccounted [] cost (some e) [] where
  atMostOne := Nat.zero_le 1
  count := rfl
  cost := rfl
  success _ := rfl
  failure := by
    rintro _ ⟨⟩ h
    rw [he] at h
    cases h
  silent _ _ _ := ⟨rfl, rfl⟩

/-- A call that failed in another way before a request was made. -/
theorem isAccounted_countFailure {e : CallError} (he : e.isInvalid = false)
    (address kind : String) (cost : Nat) :
    IsAccounted [] cost (some e) [c.countFailure address kind []] where
  atMostOne := Nat.zero_le 1
  count := c.samplesOf_countFailure _ _ _ _
  cost := c.samplesOf_countFailure _ _ _ _
  success := by rintro ⟨⟩
  failure _ _ _ := c.samplesOf_countFailure _ _ _ _
  silent := by
    rintro _ ⟨⟩ h
    rw [he] at h
    cases h

/-- A call whose request was sent and answered. -/
theorem isAccounted_sentEmissions (r : Request) (url id : String) (cost now : Nat) :
    IsAccounted [r] cost none (c.sentEmissions url id cost now) where
  atMostOne := Nat.le_refl 1
  count := c.samplesOf_sentEmissions _ _ _ _ _
  cost := c.samplesOf_sentEmissions _ _ _ _ _
  success _ := c.samplesOf_sentEmissions _ _ _ _ _
  failure := by rintro _ ⟨⟩
  silent := by rintro _ ⟨⟩

end Caller

/-- What went well up to here can still fail. Then one failure more is reported, and nothing
else that is a sample. -/
theorem IsAccounted.fail {sent : List Request} {cost : Nat} {l l' : List (Emission Binary64)}
    (h : IsAccounted sent cost none l) {e : CallError} (he : e.isInvalid = false)
    (hl' : ∀ series, samplesOf series l'
      = if Series.commonError = series then [(.counter, Scalar.ofNat 1)] else []) :
    IsAccounted sent cost (some e) (l ++ l') where
  atMostOne := h.atMostOne
  count := by
    rw [samplesOf_append, hl', h.count]
    exact List.append_nil _
  cost := by
    rw [samplesOf_append, hl', h.cost]
    exact List.append_nil _
  success := by rintro ⟨⟩
  failure := by
    rintro _ ⟨⟩ -
    rw [samplesOf_append, hl', h.success rfl]
    rfl
  silent := by
    rintro _ ⟨⟩ hinvalid
    rw [he] at hinvalid
    cases hinvalid

namespace Caller

variable (c : Caller)

/-- A call whose request was sent. -/
theorem isAccounted_reported (q : Prepared) (e : Exchange) (now : Nat) :
    IsAccounted [q.request] e.cost (failure? (c.reported q e now).result)
      (c.reported q e now).emissions := by
  have hsent := c.isAccounted_sentEmissions q.request q.url q.id e.cost now
  unfold reported
  cases h : classify q.url e.corruption e.outcome with
  | ok data => exact hsent
  | error error =>
    exact hsent.fail (isInvalid_of_classify h) fun series =>
      c.samplesOf_failureEmissions series q.url q.id error now

/-- A call whose reply was read, or could not be. -/
theorem isAccounted_readReply {β : Type} (read : Bytes → Except String β) {sent : List Request}
    {cost : Nat} {r : CallReport Bytes} (address id : String) (now : Nat)
    (h : IsAccounted sent cost (failure? r.result) r.emissions) :
    IsAccounted sent cost (failure? (c.readReply read address id now r).result)
      (c.readReply read address id now r).emissions := by
  obtain ⟨result, emissions⟩ := r
  cases result with
  | error e => exact h
  | ok data =>
    unfold readReply
    dsimp only
    cases read data with
    | ok b => exact h
    | error reason =>
      exact h.fail rfl fun series =>
        c.samplesOf_countFailure_logLine series address _ [] _ id _ now

/-! ### A call on any script -/

/-- A call accounts for itself, wherever in a script it begins. -/
def Accounts {β : Type} (call : OnScript (CallReport β)) : Prop :=
  ∀ p : Playback, ∃ p' sent r, call.run p = pure (r, p') ∧ p'.sent = p.sent ++ sent ∧
    IsAccounted sent (p.script.exchange p.sent.length).cost (failure? r.result) r.emissions

theorem accounts_callBytes (o : CallOptions) (address contentType : String) (body : Bytes) :
    Accounts (c.callBytes o address contentType body) := by
  intro p
  refine c.exists_run_callBytes o address contentType body p (fun e he _ => ?_)
    fun q r now _ => ?_
  · exact isAccounted_invalid he _
  · exact c.isAccounted_reported { q with request := r } _ now

theorem accounts_callJson (o : CallOptions) (address : String) (body : Except String Bytes) :
    Accounts (c.callJson o address body) := by
  intro p
  cases body with
  | error reason =>
    exact ⟨p, [], _, rfl, (List.append_nil _).symm, c.isAccounted_countFailure rfl address _ _⟩
  | ok body =>
    refine c.exists_run_callReading o address body valueIn p (fun e he _ => ?_)
      fun q r now now' _ => ?_
    · exact isAccounted_invalid he _
    · exact c.isAccounted_readReply valueIn address q.id now'
        (c.isAccounted_reported { q with request := r } _ now)

end Caller

namespace Client

/-- All that a call reports goes to the sink, and it accounts for the call, whatever client
makes it and wherever in a script it begins. -/
def Accounts {β : Type} (call : StateT (Client OnScript) OnScript (Except CallError β)) : Prop :=
  ∀ (c : Client OnScript) (p : Playback), ∃ c' p' sent result l,
    (call.run c).run p = pure ((result, c'), p') ∧ p'.sent = p.sent ++ sent ∧
      c'.sink = c.sink.emitAll l ∧
      IsAccounted sent (p.script.exchange p.sent.length).cost (failure? result) l

/-- A client calls the address of a path, and all that the call reports goes to its sink. -/
theorem accounts_of_caller {β : Type} (path : String)
    (call : Caller → String → OnScript (CallReport β))
    (h : ∀ caller address, Caller.Accounts (call caller address)) :
    Accounts (do
      let address ← Client.address path
      let r ← liftM (m := OnScript) (call (← get).caller address)
      settle r) := by
  intro c p
  obtain ⟨p', sent, r, hrun, hsent, haccount⟩ :=
    h c.caller (c.addresses.get (c.host path) path).1 p
  exact ⟨_, p', sent, r.result, r.emissions, run_of_caller path call hrun, hsent, rfl, haccount⟩

/-- **Every call accounts for itself**, whatever its path, body and options are. -/
theorem accounts_call (path contentType : String) (o : CallOptions) (body : Bytes)
    (written : Except String Bytes) :
    Accounts (callBytes path body contentType o) ∧ Accounts (callJson path written o) := by
  constructor
  · exact accounts_of_caller path (fun c address => c.callBytes o address contentType body)
      fun c address => c.accounts_callBytes o address contentType body
  · exact accounts_of_caller path (fun c address => c.callJson o address written)
      fun c address => c.accounts_callJson o address written

end Client

end Courier
