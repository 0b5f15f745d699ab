import Courier.Call.Address
import Courier.Call.Coding
import Courier.Call.Fields
import Courier.Json.Printer
import Courier.Json.Reader
import Courier.Number.Binary64
import Courier.Signing.Authentication
import Courier.Telemetry.Event
import Courier.Telemetry.Tag

/-!
# Calls

A call posts a body to an address, compressed and signed, and gives back the body of the
reply. It goes through three stages, each of which can end it:

1. `Caller.request?` – the header is made and the query parameters are added; the request
   is made and signed. Nothing has been sent if this fails;
2. the request is sent. From here on the call is **counted** and its time taken, whatever
   comes of it (`Caller.sentEmissions`);
3. `Caller.classify` – the outcome is turned into the body or an error, and an error is
   counted by its kind (`Caller.failureEmissions`).

A header has room for so many entries only (`CallFields.hasRoom`). A call with more of them breaks
off in the first stage and comes to nothing, not even to an error; everything here is about calls
whose entries have room.

`Caller.callBytes` is such a call. `Caller.callReading` is one whose body was written as JSON and
which reads something in the reply, such as any JSON (`Caller.callJson`); an error in either is
counted as well.
-/

namespace Courier

/-- What the calls of a client have in common. -/
structure Caller where
  fields : CallFields
  authentication : Authentication
  /-- How long a call may take that does not say so, in milliseconds. -/
  timeout : Nat
deriving DecidableEq, Inhabited

/-- The result of a call and what it reports. -/
structure CallReport (β : Type) where
  result : Except CallError β
  emissions : List (Emission Binary64)

namespace Caller

/-- The content type of JSON. -/
def jsonType : String := "application/json"

/-! ### What is reported -/

/-- The tags of everything a call reports. -/
def tags (c : Caller) (url : String) : List String :=
  [Tag.render "project_id" c.fields.projectId, Tag.render "url" url]

/-- A failure of a kind, with further tags. -/
def countFailure (c : Caller) (url kind : String) (more : List String) : Emission Binary64 :=
  .metric ⟨.counter, Series.commonError, Scalar.ofNat 1, c.tags url ++ ("type:" ++ kind) :: more⟩

/-- A line of the log. -/
def logLine (level : LogLevel) (id message : String) (now : Nat) : Emission Binary64 :=
  .log ⟨id, message, level, now⟩

/-- What is reported of a request that was sent. -/
def sentEmissions (c : Caller) (url id : String) (cost now : Nat) : List (Emission Binary64) :=
  [.metric ⟨.timer, Series.requestCost, Scalar.ofNat cost, c.tags url⟩,
    .metric ⟨.counter, Series.requestCount, Scalar.ofNat 1, c.tags url⟩,
    logLine .info id ("http request project_id:" ++ c.fields.projectId ++ ", url:" ++ url
      ++ ", cost:" ++ toString cost ++ "ms") now]

/-- What is reported of a request that was sent and failed. -/
def failureEmissions (c : Caller) (url id : String) (e : CallError) (now : Nat) :
    List (Emission Binary64) :=
  match e with
  | .status _ code body =>
    [c.countFailure url e.countedAs ["status:" ++ toString code],
      logLine .error id ("http status not 200, url:" ++ url ++ ", code:" ++ toString code
        ++ ", body:" ++ body.getD "") now]
  | .encoding _ _ => [c.countFailure url e.countedAs []]
  | _ =>
    [c.countFailure url e.countedAs [],
      logLine .error id ("do http request fail, url:" ++ url ++ ", err:" ++ e.message) now]

/-! ### The three stages -/

/-- The coding that a header names. One that is not plain ASCII counts as none. -/
def codingOf (h : Headers) : Option String := h.get? .contentEncoding >>= HeaderValue.ascii?

/-- The text of a body for an error, if it has one. -/
def shownBody (coding : Option String) (body : Bytes) : Option String :=
  match decodeBody coding body with
  | .ok data => if data.isEmpty then none else some (Utf8.lossy data)
  | .error _ => none

/-- **What an outcome means**: the decoded body of a reply with status 200, or an error. What is
said of a body that is corrupt is given. -/
def classify (url corruption : String) : Outcome → Except CallError Bytes
  | .failed fault => .error (.ofFault url fault)
  | .cut _ _ fault => .error (.ofFault url fault)
  | .reply r =>
    if r.status = 200 then
      match decodeBody (codingOf r.headers) r.body with
      | .ok data => .ok data
      | .error e => .error (.encoding url (e.message corruption))
    else .error (.status url r.status (shownBody (codingOf r.headers) r.body))

/-- A request ready to be signed, with the address it is sent to and its identifier. -/
structure Prepared where
  url : String
  id : String
  request : Request

/-- The request of a call before it is signed. -/
def prepare (c : Caller) (o : CallOptions) (address contentType fresh : String) (body : Bytes) :
    Except CallError Prepared :=
  match c.fields.headers o address contentType fresh with
  | .error e => .error e
  | .ok (h, id) =>
    match withQueries address o.queries with
    | .error e => .error (.invalidRequest address ("invalid url: " ++ e.message))
    | .ok url =>
      let timeout := (o.timeout.map (· / 1000)).getD c.timeout
      match Request.to? "POST" url timeout with
      | none => .error (.invalidRequest url "builder error")
      | some r => .ok ⟨url, id, { r.withHeaders h with body := gzip body }⟩

variable {m : Type → Type} [Monad m] [Outside m]

/-- The signed request of a call. -/
def request? (c : Caller) (o : CallOptions) (address contentType : String) (body : Bytes) :
    m (Except CallError Prepared) := do
  let fresh ← Outside.freshId
  match c.prepare o address contentType fresh body with
  | .error e => return .error e
  | .ok p =>
    match ← c.authentication.sign p.request with
    | (r, .ok ()) => return .ok { p with request := r }
    | (_, .error e) => return .error (.invalidRequest p.url e.message)

/-- A request sent, and what came of it. -/
def send (c : Caller) (p : Prepared) : m (CallReport Bytes) := do
  let e ← Outside.exchange p.request
  let now ← Outside.now
  let sent := c.sentEmissions p.url p.id e.cost now
  match classify p.url e.corruption e.outcome with
  | .ok data => return ⟨.ok data, sent⟩
  | .error error => return ⟨.error error, sent ++ c.failureEmissions p.url p.id error now⟩

/-- A call, the identifier of its request, and its report. -/
def execute (c : Caller) (o : CallOptions) (address contentType : String) (body : Bytes) :
    m (String × CallReport Bytes) := do
  match ← c.request? o address contentType body with
  | .error e => return ("", ⟨.error e, []⟩)
  | .ok p =>
    let r ← c.send p
    return (p.id, r)

/-- **A call** with a body of any type. -/
def callBytes (c : Caller) (o : CallOptions) (address contentType : String) (body : Bytes) :
    m (CallReport Bytes) := do
  let (_, r) ← c.execute o address contentType body
  return r

/-- **A call** whose body is JSON, and in whose reply something is read. The body is given as it
is written, or with the reason why it cannot be; and so is what is read. -/
def callReading {β : Type} (c : Caller) (read : Bytes → Except String β) (o : CallOptions)
    (address : String) (body : Except String Bytes) : m (CallReport β) := do
  match body with
  | .error reason =>
    return ⟨.error (.serialization address reason),
      [c.countFailure address "marshal_json_request_fail" []]⟩
  | .ok body =>
    let (id, r) ← c.execute o address jsonType body
    match r.result with
    | .error e => return ⟨.error e, r.emissions⟩
    | .ok data =>
      match read data with
      | .ok b => return ⟨.ok b, r.emissions⟩
      | .error reason =>
        let now ← Outside.now
        return ⟨.error (.serialization address reason), r.emissions ++
          [c.countFailure address "unmarshal_json_response_fail" [],
            logLine .error id ("unmarshal json response fail, url:" ++ address ++ " err:" ++ reason)
              now]⟩

/-- The value in the body of a reply. -/
def valueIn (data : Bytes) : Except String Json :=
  match Json.read? data with
  | some j => .ok j
  | none => .error "malformed JSON"

/-- **A call** whose body and reply are JSON. -/
def callJson (c : Caller) (o : CallOptions) (address : String) (body : Except String Bytes) :
    m (CallReport Json) :=
  c.callReading valueIn o address body

/-- The body of a call for a value. -/
def bodyOf (j : Json) : Except String Bytes := .ok (utf8 j.compact)

end Caller

end Courier
