import Courier.Exchange.Outside
import Courier.Hosts.TrackRecord
import Courier.Telemetry.Event

/-!
# Pings

A ping asks a host for a fixed path and expects a short answer that holds the word `pong`
(`isPong`). It has an identifier of its own, and it leaves one line in the log, whatever
comes of it (`Prober.line`). A host that answers anything else, or not at all, is not
healthy; a ping never fails.

`Prober.score` is a scoring pass: all hosts are pinged, each outcome goes into the window
of its host, and the scores are read off the windows.
-/

namespace Courier

/-- Shorter than this must an answer be. -/
def pongBound : Nat := 20

/-- Whether an answer is that of a healthy host. -/
def isPong (status : Nat) (body : Bytes) : Bool :=
  status == 200 && !body.isEmpty && body.length < pongBound
    && containsText (Utf8.lossy body) "pong"

/-- How hosts are pinged. -/
structure Prober where
  schema : String
  path : String
  /-- How long an answer may take, in milliseconds. -/
  timeout : Nat
  /-- The name given for the host in place of its address. -/
  hostHeader : Option String
  projectId : String
deriving DecidableEq, Inhabited

/-- What came of a ping. -/
structure PingResult where
  isHealthy : Bool
  line : LogLine
deriving DecidableEq, Inhabited

namespace Prober

/-- The address that is asked. -/
def address (schema host path : String) : String := schema ++ "://" ++ host ++ path

/-- What the identifier of a ping begins with. -/
def idStart : String := "ping_"

/-- The request, if it can be made. An empty name for the host counts as none. -/
def request? (p : Prober) (host id : String) : Option Request := do
  let r ← Request.to? "GET" (address p.schema host p.path) p.timeout
  let r ← r.withField? .requestId id
  let r ← r.withField? .projectId p.projectId
  match p.hostHeader with
  | none => some r
  | some name => if name = "" then some r else r.withField? .host name

/-- What a line about a ping says first. -/
def about (p : Prober) (event host : String) : String :=
  "ping " ++ event ++ ", project_id:" ++ p.projectId ++ ", host:" ++ host

/-- The time that a ping took, in a line about it. -/
def costText (cost : Nat) : String := ", cost:" ++ toString cost ++ "ms"

/-- The verdict on a ping, and what the log says of it. -/
def verdict (p : Prober) (host : String) (e : Exchange) : Bool × LogLevel × String :=
  match e.outcome with
  | .failed fault =>
    (false, .warn, p.about "find err" host ++ costText e.cost ++ ", err:" ++ fault.text)
  | .cut _ _ fault => (false, .warn, p.about "find err" host ++ ", err:" ++ fault.text)
  | .reply r =>
    if isPong r.status r.body then (true, .info, p.about "success" host ++ costText e.cost)
    else
      (false, .warn,
        p.about "fail" host ++ costText e.cost ++ ", status:" ++ toString r.status)

variable {m : Type → Type} [Monad m] [Outside m]

/-- **A ping.** -/
def ping (p : Prober) (host : String) : m PingResult := do
  let unique ← Outside.freshId
  let id := idStart ++ unique
  let e ← match p.request? host id with
    | some r => Outside.exchange r
    | none => pure { outcome := .failed (.broken "builder error"), cost := 0 }
  let now ← Outside.now
  let (isHealthy, level, message) := p.verdict host e
  return ⟨isHealthy, ⟨id, message, level, now⟩⟩

/-- Pings in turn. -/
def pingAll (p : Prober) : List String → m (List PingResult)
  | [] => pure []
  | host :: rest => do
    let r ← p.ping host
    let rs ← p.pingAll rest
    return r :: rs

/-- **A scoring pass**: the track record after it, the scores, and the lines of the pings. -/
def score {α : Type} [Scalar α] (p : Prober) (t : TrackRecord) (hosts : List String) :
    m (TrackRecord × List (Score α) × List LogLine) := do
  let results ← if TrackRecord.isRanked hosts then p.pingAll hosts else pure []
  let (t, scores) := t.pass hosts (results.map (·.isHealthy))
  return (t, scores, results.map (·.line))

end Prober

end Courier
