import Courier.Proofs.Call.Execution
import Courier.Proofs.Url.Coding

/-!
# What a reply comes to

The status of a reply, its header and its body vary independently, and the body is decoded
whatever the status is. What a reply comes to (`Courier.Reply.ComesTo`):

| status | data in the body | result |
|---|---|---|
| 200 | some or none | the data |
| 200 | cannot be decoded | `Courier.CallError.encoding` |
| another | some | `Courier.CallError.status` with the text of the data |
| another | none, or cannot be decoded | `Courier.CallError.status` without a text |

So a body that cannot be decoded is an error of its own only where the data are asked for, and a
reply that was read to its end is **never** taken for a fault of the connection. The coding of the
body is what the header names (`Courier.Headers.NamesCoding`).

A call sends one request, or none if no request can be prepared and signed, and then its error is
that it is invalid (`Courier.Caller.ComesToReply`).

A call that reads something in the reply takes the result of a call with the same body and reads
the data, if there are any (`Courier.IsReadingOf`). It fails in one more way, if they cannot be
read. That both hold of all calls of a client is `Courier.Client.comesToReply_and_isReadingOf`.
-/

namespace Courier

/-! ### The coding that is named -/

/-- Bytes of ASCII are those of a text. -/
theorem Utf8.exists_eq_utf8_of_lt {b : Bytes} (h : ∀ x ∈ b, x < 0x80) : ∃ s, b = utf8 s := by
  refine ⟨String.ofList (b.map fun x => Char.ofNat x.toNat), ?_⟩
  have hcode : ∀ x ∈ b, (Char.ofNat x.toNat).toNat = x.toNat := fun x hx =>
    Utf8.toNat_charOfNat (Or.inl (Nat.lt_trans (UInt8.toNat_lt x) (by decide)))
  rw [UrlCoding.utf8_ofList_of_lt, List.map_map]
  · refine (List.map_id b).symm.trans (List.map_congr_left fun x hx => ?_)
    rw [Function.comp_apply, hcode x hx, UInt8.ofNat_toNat, id]
  · intro c hc
    obtain ⟨x, hx, rfl⟩ := List.mem_map.1 hc
    rw [hcode x hx]
    exact UInt8.lt_iff_toNat_lt.1 (h x hx)

theorem HeaderValue.ascii?_eq_some_iff {v : HeaderValue} {s : String} :
    v.ascii? = some s ↔ (∀ b ∈ v.bytes, b = 9 ∨ 32 ≤ b ∧ b < 127) ∧ v.bytes = utf8 s := by
  have hbyte (b : UInt8) (hb : isValueByte b = true) : b < 127 ↔ b = 9 ∨ 32 ≤ b ∧ b < 127 := by
    simp only [isValueByte, Bool.or_eq_true, Bool.and_eq_true, beq_iff_eq, bne_iff_ne, ne_eq,
      decide_eq_true_eq, ← UInt8.toNat_inj, UInt8.le_iff_toNat_le, UInt8.lt_iff_toNat_lt,
      UInt8.reduceToNat] at hb ⊢
    omega
  have hall : v.bytes.all (· < 127) = true ↔ ∀ b ∈ v.bytes, b = 9 ∨ 32 ≤ b ∧ b < 127 := by
    rw [List.all_eq_true]
    exact forall₂_congr fun b hb =>
      decide_eq_true_iff.trans (hbyte b (List.all_eq_true.1 v.legal b hb))
  rw [ascii?, Option.ite_none_right_eq_some, hall]
  refine and_congr_right fun hvisible => ?_
  have hlt : ∀ b ∈ v.bytes, b < 0x80 := fun b hb =>
    UInt8.lt_trans (of_decide_eq_true (List.all_eq_true.1 (hall.2 hvisible) b hb)) (by decide)
  obtain ⟨t, ht⟩ := Utf8.exists_eq_utf8_of_lt hlt
  rw [ht, Utf8.lossy_utf8, Option.some.injEq, Utf8.utf8_injective.eq_iff]

/-- **What coding a header names**: the first value of the field, if that is plain ASCII. -/
def Headers.NamesCoding (h : Headers) (coding : Option String) : Prop :=
  ∀ s, coding = some s ↔ ∃ v rest, h.values .contentEncoding = v :: rest ∧
    (∀ b ∈ v.bytes, b = 9 ∨ 32 ≤ b ∧ b < 127) ∧ v.bytes = utf8 s

theorem Caller.namesCoding_codingOf (h : Headers) : h.NamesCoding (codingOf h) := by
  intro s
  rw [codingOf, Headers.get?]
  cases h.values .contentEncoding with
  | nil => simp
  | cons v rest => simp [HeaderValue.ascii?_eq_some_iff]

/-! ### The reply -/

/-- **What a reply comes to** that was read to its end and whose body has a coding, given what is
said of a body that is corrupt. -/
structure Reply.ComesTo (reply : Reply) (url corruption : String) (coding : Option String)
    (result : Except CallError Bytes) : Prop where
  ok_iff : ∀ data, result = .ok data ↔
    reply.status = 200 ∧ decodeBody coding reply.body = .ok data
  encoding_iff : ∀ url' message, result = .error (.encoding url' message) ↔
    reply.status = 200 ∧ url' = url ∧
      ∃ e, decodeBody coding reply.body = .error e ∧ message = e.message corruption
  status_iff : ∀ url' code text, result = .error (.status url' code text) ↔
    reply.status ≠ 200 ∧ url' = url ∧ code = reply.status ∧
      ∀ s, text = some s ↔
        ∃ data, decodeBody coding reply.body = .ok data ∧ data ≠ [] ∧ s = Utf8.lossy data
  /-- There is no other error. -/
  error : ∀ e, result = .error e →
    (∃ message, e = .encoding url message) ∨ ∃ code text, e = .status url code text

namespace Caller

theorem shownBody_eq_some_iff {coding : Option String} {body : Bytes} {s : String} :
    shownBody coding body = some s ↔
      ∃ data, decodeBody coding body = .ok data ∧ data ≠ [] ∧ s = Utf8.lossy data := by
  unfold shownBody
  cases decodeBody coding body with
  | error e => simp
  | ok data => cases data <;> simp [eq_comm]

/-- A text that is shown is settled by what it can be. -/
theorem eq_shownBody_iff {coding text : Option String} {body : Bytes} :
    text = shownBody coding body ↔ ∀ s, text = some s ↔
      ∃ data, decodeBody coding body = .ok data ∧ data ≠ [] ∧ s = Utf8.lossy data := by
  simp only [← shownBody_eq_some_iff]
  exact Option.ext_iff

theorem comesTo_classify (url corruption : String) (reply : Reply) :
    reply.ComesTo url corruption (codingOf reply.headers)
      (classify url corruption (.reply reply)) := by
  by_cases hstatus : reply.status = 200
  · cases hdecode : decodeBody (codingOf reply.headers) reply.body with
    | ok data =>
      have h : classify url corruption (.reply reply) = .ok data := by
        simp [classify, hstatus, hdecode]
      rw [h]
      constructor <;> simp [hstatus, hdecode]
    | error e =>
      have h : classify url corruption (.reply reply)
          = .error (.encoding url (e.message corruption)) := by
        simp [classify, hstatus, hdecode]
      rw [h]
      constructor <;> simp [hstatus, hdecode, eq_comm]
  · have h : classify url corruption (.reply reply) = .error (.status url reply.status
        (shownBody (codingOf reply.headers) reply.body)) := by
      simp [classify, hstatus]
    rw [h]
    constructor
    case status_iff =>
      simp only [Except.error.injEq, CallError.status.injEq, ← eq_shownBody_iff]
      simp [hstatus, eq_comm]
    all_goals simp [hstatus]

/-- A body that nobody can decode does not matter if the status is an error already. -/
example : classify "http://h/p" "" (.reply ⟨500, ⟨[(.contentEncoding, ⟨utf8 "br", by decide⟩)]⟩,
    utf8 "no"⟩) = .error (.status "http://h/p" 500 none) := by
  decide

end Caller

/-- No error of a reply is a fault of the connection. -/
theorem Reply.ComesTo.isNetError_eq_false {reply : Reply} {url corruption : String}
    {coding : Option String} {result : Except CallError Bytes}
    (h : reply.ComesTo url corruption coding result) {e : CallError}
    (he : result = .error e) : e.isNetError = false := by
  rcases h.error e he with ⟨message, rfl⟩ | ⟨code, text, rfl⟩ <;> rfl

/-! ### What is read in the data -/

/-- **A result of which the data were read**: what was read in the data, or that it could not be;
an error stays what it is. -/
structure IsReadingOf {β : Type} (read : Bytes → Except String β) (address : String)
    (result : Except CallError Bytes) (result' : Except CallError β) : Prop where
  ok_iff : ∀ b, result' = .ok b ↔ ∃ data, result = .ok data ∧ read data = .ok b
  error_iff : ∀ e, result' = .error e ↔ result = .error e ∨
    ∃ data reason, result = .ok data ∧ read data = .error reason ∧
      e = .serialization address reason

theorem Caller.isReadingOf_readReply {β : Type} (c : Caller) (read : Bytes → Except String β)
    (address id : String) (now : Nat) (r : CallReport Bytes) :
    IsReadingOf read address r.result (c.readReply read address id now r).result := by
  unfold readReply
  cases r.result with
  | error e => constructor <;> simp
  | ok data =>
    dsimp only
    cases hread : read data with
    | ok b => constructor <;> simp [hread]
    | error reason => constructor <;> simp [hread, eq_comm]

/-! ### The call -/

/-- **What is known of a call** by what it sent and what came of that. Nothing was sent, and this
exactly if there was no request that could be prepared and signed; or that one request was sent, to
the address with the parameters, and if a reply was read to its end, it is what the call comes
to. -/
def Caller.ComesToReply (c : Caller) (o : CallOptions) (address contentType : String)
    (body : Bytes) (p : Playback) (sent : List Request) (result : Except CallError Bytes) : Prop :=
  (sent = [] ∧ (∀ q r, ¬c.Makes o address contentType body p q r) ∧
      ∃ e, result = .error e ∧ e.isInvalid = true) ∨
    ∃ q request, c.Makes o address contentType body p q request ∧ sent = [request] ∧
      withQueries address o.queries = .ok q.url ∧
      ∀ reply, (p.script.exchange p.sent.length).outcome = .reply reply →
        ∃ coding, reply.headers.NamesCoding coding ∧
          reply.ComesTo q.url (p.script.exchange p.sent.length).corruption coding result

/-- Once a reply was read to its end, no error is a fault of the connection. -/
theorem Caller.ComesToReply.isNetError_eq_false {c : Caller} {o : CallOptions}
    {address contentType : String} {body : Bytes} {p : Playback} {sent : List Request}
    {result : Except CallError Bytes} (h : c.ComesToReply o address contentType body p sent result)
    {reply : Reply} (hreply : (p.script.exchange p.sent.length).outcome = .reply reply)
    {e : CallError} (he : result = .error e) : e.isNetError = false := by
  rcases h with ⟨-, -, e', he', hinvalid⟩ | ⟨q, request, -, -, -, h⟩
  · obtain rfl : e' = e := Except.error.inj (he'.symm.trans he)
    cases e' with
    | invalidRequest url message => rfl
    | _ => cases hinvalid
  · obtain ⟨coding, -, h⟩ := h reply hreply
    exact h.isNetError_eq_false he

namespace Caller

/-- A request that was prepared goes to the address with the parameters. -/
theorem withQueries_of_prepare {c : Caller} {o : CallOptions} {address contentType fresh : String}
    {body : Bytes} {q : Prepared} (h : c.prepare o address contentType fresh body = .ok q) :
    withQueries address o.queries = .ok q.url := by
  unfold prepare at h
  split at h
  · cases h
  · cases hqueries : withQueries address o.queries with
    | error e => simp [hqueries] at h
    | ok url =>
      simp only [hqueries] at h
      split at h
      · cases h
      · cases h
        rfl

variable (c : Caller) (o : CallOptions) (address contentType : String) (body : Bytes)
  (p : Playback)

theorem comesToReply_callBytes : ∃ p' sent r,
    (c.callBytes o address contentType body : OnScript _).run p = pure (r, p') ∧
      p'.sent = p.sent ++ sent ∧
      c.ComesToReply o address contentType body p sent r.result := by
  refine c.exists_run_callBytes o address contentType body p
    (fun e he hnone => .inl ⟨rfl, hnone, e, rfl, he⟩)
    fun q r now hmakes => .inr ⟨q, r, hmakes, rfl, withQueries_of_prepare hmakes.prepared,
      fun reply hreply => ?_⟩
  refine ⟨_, namesCoding_codingOf reply.headers, ?_⟩
  generalize p.script.exchange p.sent.length = e at hreply
  have hresult : (c.reported { q with request := r } e now).result
      = classify q.url e.corruption (.reply reply) := by
    rw [reported, hreply]
    cases classify q.url e.corruption (.reply reply) <;> rfl
  rw [hresult]
  exact comesTo_classify q.url e.corruption reply

/-- A call that reads something in the reply sends what a call without that sends, and reads the
data that this gives. -/
theorem isReadingOf_callReading {β : Type} (read : Bytes → Except String β) : ∃ r₁ p₁ r₂ p₂,
    (c.callBytes o address jsonType body : OnScript _).run p = pure (r₁, p₁) ∧
      (c.callReading read o address (.ok body) : OnScript _).run p = pure (r₂, p₂) ∧
      p₂.sent = p₁.sent ∧ IsReadingOf read address r₁.result r₂.result := by
  obtain ⟨id, r, p₁, hrun⟩ : ∃ id r p₁,
      (c.execute o address jsonType body : OnScript _).run p = pure ((id, r), p₁) :=
    ⟨_, _, _, rfl⟩
  obtain ⟨now, p₂, hread, hsent⟩ :=
    c.exists_run_callReading_of_run_execute o address body read hrun
  refine ⟨r, p₁, _, p₂, ?_, hread, hsent, c.isReadingOf_readReply read address id now r⟩
  simp only [callBytes, StateT.run_bind]
  rw [hrun]
  rfl

end Caller

/-- **What calls come to**, whatever client makes them and wherever in a script they begin: a reply
that was read to its end decides by its status, its header and its body between the data and one
of two errors; a call that reads something in the reply agrees with that and fails besides only if
it cannot read the data; and neither takes such a reply for a fault of the connection. -/
theorem Client.comesToReply_and_isReadingOf {β : Type} (read : Bytes → Except String β)
    (path : String) (body : Bytes) (o : CallOptions) (c : Client OnScript) (p : Playback) :
    let address := (c.addresses.get (c.host path) path).1
    let outcome := (p.script.exchange p.sent.length).outcome
    (∀ contentType, ∃ c' p' sent result,
        ((callBytes path body contentType o).run c).run p = pure ((result, c'), p') ∧
          p'.sent = p.sent ++ sent ∧
          c.caller.ComesToReply o address contentType body p sent result) ∧
      ∃ c₁ p₁ result₁ c₂ p₂ result₂,
        ((callBytes path body Caller.jsonType o).run c).run p = pure ((result₁, c₁), p₁) ∧
          ((callReading read path (.ok body) o).run c).run p = pure ((result₂, c₂), p₂) ∧
          p₂.sent = p₁.sent ∧ IsReadingOf read address result₁ result₂ ∧
          ∀ reply, outcome = .reply reply → ∀ e, result₂ = .error e → e.isNetError = false := by
  intro address outcome
  have hbytes (contentType : String) {r : CallReport Bytes} {p' : Playback}
      (h : (c.caller.callBytes o address contentType body : OnScript _).run p = pure (r, p')) :=
    run_of_caller path (fun caller address => caller.callBytes o address contentType body) h
  refine ⟨fun contentType => ?_, ?_⟩
  · obtain ⟨p', sent, r, hrun, hsent, h⟩ :=
      c.caller.comesToReply_callBytes o address contentType body p
    exact ⟨_, p', sent, r.result, hbytes contentType hrun, hsent, h⟩
  · obtain ⟨r₁, p₁, r₂, p₂, hrun₁, hrun₂, hsent, hreading⟩ :=
      c.caller.isReadingOf_callReading o address body p read
    refine ⟨_, p₁, r₁.result, _, p₂, r₂.result, hbytes _ hrun₁, run_of_caller path
      (fun caller address => caller.callReading read o address (.ok body)) hrun₂, hsent, hreading,
      fun reply hreply e he => ?_⟩
    obtain ⟨p', sent, r, hrun, -, h⟩ :=
      c.caller.comesToReply_callBytes o address Caller.jsonType body p
    obtain ⟨rfl, -⟩ := Prod.mk.inj (hrun₁.symm.trans hrun)
    rcases (hreading.error_iff e).1 he with he | ⟨data, reason, -, -, rfl⟩
    · exact h.isNetError_eq_false hreply he
    · rfl

namespace Client

/-- Settings with one host, and with a token to sign with. -/
def withToken : Settings where
  tenantId := "t"
  region := "r"
  schema := "http"
  hosts := ["h"]
  auth := { useAirAuth := true, airAuthToken := some "token" }

/-- A server that answers with compressed data. -/
def compressing : Script :=
  { (default : Script) with
    exchange := fun _ =>
      { outcome := .reply
          ⟨200, ⟨[(.contentEncoding, ⟨utf8 "gzip", by decide⟩)]⟩, gzip (utf8 "pong")⟩
        cost := 0 } }

/-- The data are what a call to this server comes to. -/
theorem comesToReply_compressing : ∃ c c' : Client OnScript, ∃ p' request,
    new withToken none 0 = .ok c ∧
      ((callBytes "p" (utf8 "ping") "text/plain" {}).run c).run (.start compressing)
        = pure ((.ok (utf8 "pong"), c'), p') ∧ p'.sent = [request] := by
  have hnew : (new withToken none 0 : Except BuildError (Client OnScript)).map
      (fun c => (c.caller, (c.addresses.get (c.host "p") "p").1))
      = .ok (withToken.toCaller, "http://h/p") := by decide +kernel
  cases hc : (new withToken none 0 : Except BuildError (Client OnScript)) with
  | error e =>
    rw [hc] at hnew
    cases hnew
  | ok c =>
    rw [hc] at hnew
    obtain ⟨hcaller, haddress⟩ := Prod.mk.inj (Except.ok.inj hnew)
    obtain ⟨hcalls, -⟩ := comesToReply_and_isReadingOf Caller.valueIn "p" (utf8 "ping") {} c
      (.start compressing)
    obtain ⟨c', p', sent, result, hrun, hsent, hcomes⟩ := hcalls "text/plain"
    rw [hcaller, haddress] at hcomes
    rcases hcomes with ⟨-, hnone, -⟩ | ⟨q, request, -, rfl, -, hreply⟩
    · -- not the case: the request can be prepared and signed
      exfalso
      have hmakes :
          (withToken.toCaller.prepare {} "http://h/p" "text/plain" "" (utf8 "ping")).map
            (fun q => (withToken.toCaller.authentication.signAt q.request 0 "").2)
          = .ok (.ok ()) := by
        decide +kernel
      cases hq : withToken.toCaller.prepare {} "http://h/p" "text/plain" "" (utf8 "ping") with
      | error e =>
        rw [hq] at hmakes
        cases hmakes
      | ok q =>
        rw [hq] at hmakes
        have hverdict : (withToken.toCaller.authentication.signAt q.request 0 "").2 = .ok () :=
          Except.ok.inj hmakes
        rcases hsigned : withToken.toCaller.authentication.signAt q.request 0 "" with ⟨r, verdict⟩
        rw [hsigned] at hverdict
        obtain rfl : verdict = .ok () := hverdict
        exact hnone q r ⟨hq, hsigned⟩
    · obtain ⟨coding, hcoding, hcomes⟩ := hreply _ rfl
      obtain rfl : coding = some "gzip" := by
        refine (hcoding "gzip").2 ⟨_, [], rfl, by decide +kernel, rfl⟩
      have hdata : decodeBody (some "gzip") (gzip (utf8 "pong")) = .ok (utf8 "pong") := by
        decide +kernel
      obtain rfl := (hcomes.ok_iff (utf8 "pong")).2 ⟨rfl, hdata⟩
      exact ⟨c, c', p', request, rfl, hrun, hsent⟩

end Client

end Courier
