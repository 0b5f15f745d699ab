import Courier.Client.Basic
import Courier.Exchange.Script

/-!
# What comes of a call

A call either ends before anything is sent, or it sends **one** request and all that is left
depends on what the outside answers. `Courier.Caller.run_execute` says this once, for every
script: it is what everything else about calls rests on.

What a call reports once its request was sent is a function of the request and the answer
(`Courier.Caller.reported`), and what a call that reads something in the reply makes of it is
another (`Courier.Caller.readReply`). So whatever is to hold of every call is shown once for a
call without a request and once for these two functions: `Courier.Caller.exists_run_callBytes` and
`Courier.Caller.exists_run_callReading` take care of the rest. A client adds only where a call
goes to and what becomes of its report (`Courier.Client.run_of_caller`).
-/

namespace Courier

/-- Whether a call failed because its request could not be made or signed. -/
def CallError.isInvalid : CallError → Bool
  | .invalidRequest _ _ => true
  | _ => false

namespace Caller

/-- What a call gives and reports when its request was sent, and answered at some time. -/
def reported (c : Caller) (p : Prepared) (e : Exchange) (now : Nat) : CallReport Bytes :=
  let sent := c.sentEmissions p.url p.id e.cost now
  match classify p.url e.corruption e.outcome with
  | .ok data => ⟨.ok data, sent⟩
  | .error error => ⟨.error error, sent ++ c.failureEmissions p.url p.id error now⟩

/-- What a call that reads something in the reply makes of the report of its request, at some
time. -/
def readReply {β : Type} (c : Caller) (read : Bytes → Except String β) (address id : String)
    (now : Nat) (r : CallReport Bytes) : CallReport β :=
  match r.result with
  | .error e => ⟨.error e, r.emissions⟩
  | .ok data =>
    match read data with
    | .ok b => ⟨.ok b, r.emissions⟩
    | .error reason =>
      ⟨.error (.serialization address reason), r.emissions ++
        [c.countFailure address "unmarshal_json_response_fail" [],
          logLine .error id ("unmarshal json response fail, url:" ++ address ++ " err:" ++ reason)
            now]⟩

/-- Only that a request cannot be made ends a call before it is signed. -/
theorem isInvalid_of_prepare {c : Caller} {o : CallOptions} {address contentType fresh : String}
    {body : Bytes} {e : CallError}
    (h : c.prepare o address contentType fresh body = .error e) : e.isInvalid = true := by
  unfold prepare at h
  split at h
  next e' hfields =>
    obtain rfl : e' = e := Except.error.inj h
    unfold CallFields.headers at hfields
    dsimp only at hfields
    split at hfields
    · cases hfields
    · cases hfields
      rfl
  next =>
    split at h
    · cases h
      rfl
    · dsimp only at h
      split at h
      · cases h
        rfl
      · cases h

/-- What an outcome means is never that the request could not be made. -/
theorem isInvalid_of_classify {url corruption : String} {outcome : Outcome} {e : CallError}
    (h : classify url corruption outcome = .error e) : e.isInvalid = false := by
  have hfault (f : Fault) : (CallError.ofFault url f).isInvalid = false := by
    unfold CallError.ofFault
    split
    · rfl
    · split <;> rfl
  unfold classify at h
  split at h
  · cases h
    exact hfault _
  · cases h
    exact hfault _
  · split at h
    · split at h <;> cases h
      rfl
    · cases h
      rfl

variable (c : Caller) (o : CallOptions) (address contentType : String) (body : Bytes)

/-- **What a call sends**, if it begins at a place in a script: a request that was prepared with an
identifier, and then signed, with the clock and another identifier. -/
structure Makes (p : Playback) (q : Prepared) (r : Request) : Prop where
  prepared : c.prepare o address contentType (p.script.freshId p.ids) body = .ok q
  signed : c.authentication.signAt q.request (p.script.now p.readings)
    (p.script.freshId (p.ids + 1)) = (r, .ok ())

/-- A signed request is one that the call makes. If it makes none, nothing is sent. -/
theorem run_request? (p : Playback) :
    ∃ p' : Playback, p'.script = p.script ∧ p'.sent = p.sent ∧
      ((∃ e, e.isInvalid = true ∧ (∀ q r, ¬c.Makes o address contentType body p q r) ∧
          (c.request? o address contentType body : OnScript _).run p = pure (.error e, p')) ∨
        ∃ q r, c.Makes o address contentType body p q r ∧
          (c.request? o address contentType body : OnScript _).run p
            = pure (.ok { q with request := r }, p')) := by
  simp only [request?, StateT.run_bind, OnScript.run_freshId, pure_bind]
  cases hq : c.prepare o address contentType p.freshId.1 body with
  | error e =>
    refine ⟨p.freshId.2, rfl, rfl, Or.inl ⟨e, isInvalid_of_prepare hq, fun q r hmakes => ?_, rfl⟩⟩
    cases hq.symm.trans hmakes.prepared
  | ok q =>
    simp only [Authentication.sign, StateT.run_bind, OnScript.run_freshId, OnScript.run_now,
      pure_bind, StateT.run_pure]
    cases hr : c.authentication.signAt q.request p.freshId.2.now.1 p.freshId.2.now.2.freshId.1 with
    | mk r result =>
      refine ⟨p.freshId.2.now.2.freshId.2, rfl, rfl, ?_⟩
      cases result with
      | error e =>
        refine Or.inl ⟨.invalidRequest q.url e.message, rfl, fun q' r' hmakes => ?_, rfl⟩
        obtain rfl := Except.ok.inj (hq.symm.trans hmakes.prepared)
        cases hr.symm.trans hmakes.signed
      | ok _ => exact Or.inr ⟨q, r, ⟨hq, hr⟩, rfl⟩

/-- Sending a request takes one answer of the outside. -/
theorem run_send (q : Prepared) (p : Playback) :
    (c.send q : OnScript _).run p
      = pure (c.reported q (p.exchange q.request).1 (p.exchange q.request).2.now.1,
          (p.exchange q.request).2.now.2) := by
  simp only [send, StateT.run_bind, OnScript.run_exchange, OnScript.run_now, pure_bind, reported]
  cases classify q.url (p.exchange q.request).1.corruption (p.exchange q.request).1.outcome with
  | ok data => rfl
  | error e => rfl

/-- **What comes of a call**, on every script: an error before anything was sent, and nothing
to report; or one request was prepared, signed and sent, and the rest follows from the
answer. -/
theorem run_execute (p : Playback) :
    ∃ p' : Playback, p'.script = p.script ∧
      ((∃ e, e.isInvalid = true ∧ (∀ q r, ¬c.Makes o address contentType body p q r) ∧
          p'.sent = p.sent ∧
          (c.execute o address contentType body : OnScript _).run p
            = pure (("", ⟨.error e, []⟩), p')) ∨
        ∃ q r now, c.Makes o address contentType body p q r ∧ p'.sent = p.sent ++ [r] ∧
          (c.execute o address contentType body : OnScript _).run p
            = pure ((q.id, c.reported { q with request := r }
                (p.script.exchange p.sent.length) now), p')) := by
  obtain ⟨p', hscript, hsent, h⟩ := c.run_request? o address contentType body p
  simp only [execute, StateT.run_bind]
  rcases h with ⟨e, he, hnone, hrun⟩ | ⟨q, r, hmakes, hrun⟩
  · exact ⟨p', hscript, Or.inl ⟨e, he, hnone, hsent, by rw [hrun]; rfl⟩⟩
  · refine ⟨(p'.exchange r).2.now.2, hscript,
      Or.inr ⟨q, r, (p'.exchange r).2.now.1, hmakes, ?_, ?_⟩⟩
    · rw [← hsent]
      rfl
    · rw [hrun, pure_bind]
      simp only [StateT.run_bind, run_send, pure_bind]
      rw [← hscript, ← hsent]
      rfl

/-! ### What holds of every call

What holds of a call is shown in two cases: for a call that ended before anything was sent, and
for one that sent a request. -/

/-- **What holds of a call** with a body of any type. -/
theorem exists_run_callBytes {P : List Request → CallReport Bytes → Prop} (p : Playback)
    (unsent : ∀ e, e.isInvalid = true → (∀ q r, ¬c.Makes o address contentType body p q r) →
      P [] ⟨.error e, []⟩)
    (sent : ∀ q r now, c.Makes o address contentType body p q r →
      P [r] (c.reported { q with request := r } (p.script.exchange p.sent.length) now)) :
    ∃ p' requests report,
      (c.callBytes o address contentType body : OnScript _).run p = pure (report, p') ∧
        p'.sent = p.sent ++ requests ∧ P requests report := by
  obtain ⟨p', -, h⟩ := c.run_execute o address contentType body p
  simp only [callBytes, StateT.run_bind]
  rcases h with ⟨e, he, hnone, hsent, hrun⟩ | ⟨q, r, now, hmakes, hsent, hrun⟩
  · refine ⟨p', [], _, ?_, ?_, unsent e he hnone⟩
    · rw [hrun]
      rfl
    · rw [hsent, List.append_nil]
  · refine ⟨p', [r], _, ?_, hsent, sent q r now hmakes⟩
    rw [hrun]
    rfl

variable {β : Type} (read : Bytes → Except String β)

/-- A call that reads something in the reply sends nothing more to do so. -/
theorem exists_run_callReading_of_run_execute {p p' : Playback} {id : String}
    {r : CallReport Bytes}
    (hrun : (c.execute o address jsonType body : OnScript _).run p = pure ((id, r), p')) :
    ∃ now p'', (c.callReading read o address (.ok body) : OnScript _).run p
      = pure (c.readReply read address id now r, p'') ∧ p''.sent = p'.sent := by
  simp only [callReading, StateT.run_bind]
  rw [hrun, pure_bind]
  obtain ⟨result, emissions⟩ := r
  refine ⟨p'.now.1, ?_⟩
  cases result with
  | error e => exact ⟨p', rfl, rfl⟩
  | ok data =>
    -- only a reply that cannot be read makes the call look at the clock again
    simp only [readReply]
    cases read data with
    | ok b => exact ⟨p', rfl, rfl⟩
    | error reason => exact ⟨p'.now.2, rfl, rfl⟩

/-- **What holds of a call** whose body was written as JSON and that reads something in the
reply. -/
theorem exists_run_callReading {P : List Request → CallReport β → Prop} (p : Playback)
    (unsent : ∀ e, e.isInvalid = true → (∀ q r, ¬c.Makes o address jsonType body p q r) →
      P [] ⟨.error e, []⟩)
    (sent : ∀ q r now now', c.Makes o address jsonType body p q r →
      P [r] (c.readReply read address q.id now'
        (c.reported { q with request := r } (p.script.exchange p.sent.length) now))) :
    ∃ p' requests report,
      (c.callReading read o address (.ok body) : OnScript _).run p = pure (report, p') ∧
        p'.sent = p.sent ++ requests ∧ P requests report := by
  obtain ⟨p', -, h⟩ := c.run_execute o address jsonType body p
  rcases h with ⟨e, he, hnone, hsent, hrun⟩ | ⟨q, r, now, hmakes, hsent, hrun⟩
  · obtain ⟨now', p'', hread, hsent'⟩ :=
      c.exists_run_callReading_of_run_execute o address body read hrun
    refine ⟨p'', [], _, hread, ?_, unsent e he hnone⟩
    rw [hsent', hsent, List.append_nil]
  · obtain ⟨now', p'', hread, hsent'⟩ :=
      c.exists_run_callReading_of_run_execute o address body read hrun
    exact ⟨p'', [r], _, hread, hsent'.trans hsent, sent q r now now' hmakes⟩

end Caller

/-- **A call of a client** goes to the address of a path on the best host, and all that it reports
goes to the sink. -/
theorem Client.run_of_caller {β : Type} (path : String)
    (call : Caller → String → OnScript (CallReport β)) {c : Client OnScript} {p p' : Playback}
    {r : CallReport β}
    (hrun : (call c.caller (c.addresses.get (c.host path) path).1).run p = pure (r, p')) :
    ((do
      let address ← Client.address path
      let r ← liftM (m := OnScript) (call (← get).caller address)
      settle r : StateT (Client OnScript) OnScript _).run c).run p
      = pure ((r.result, { c with
          addresses := (c.addresses.get (c.host path) path).2
          sink := c.sink.emitAll r.emissions }), p') := by
  simp [Client.address, settle, emit, hrun]

end Courier
