import Courier.Exchange.Outside
import Courier.Json.Printer
import Courier.Settings.Field
import Courier.Telemetry.Aggregator
import Courier.Telemetry.Sink

/-!
# Reports

A report empties both queues of a sink. The samples are taken together series by series,
and everything is posted in **batches** of at most the size that the settings give
(`Report.posts`): first the counters, then the other records, then the log lines, each to
a path of its own.

A batch is posted again only if the time given to the post was over, and only so often
(`Report.send`). A batch that the collector does not take is lost; the batches after it are
posted all the same.
-/

namespace Courier

/-- Records or lines that are posted together. -/
inductive Batch (α : Type) where
  | metrics (records : List (MetricRecord α))
  | logs (lines : List LogLine)
deriving DecidableEq

/-- A batch and the path it is posted to. -/
structure Post (α : Type) where
  path : String
  batch : Batch α
deriving DecidableEq

/-- What came of posting a batch once. -/
inductive PostResult where
  | accepted
  | timedOut
  | refused
deriving DecidableEq, Inhabited

namespace Report

variable {α β : Type}

/-- A list in pieces of at most a length, which is at least one; no piece is empty. -/
def chunks (size : Nat) (l : List β) : List (List β) :=
  match l with
  | [] => []
  | x :: r => (x :: r).take (size - 1 + 1) :: chunks size ((x :: r).drop (size - 1 + 1))
termination_by l.length
decreasing_by
  simp only [List.length_drop, List.length_cons]
  omega

/-- The posts for records and lines. -/
def posts (s : MetricsSettings) (counters general : List (MetricRecord α))
    (lines : List LogLine) : List (Post α) :=
  let size := max s.batchSize 1
  (chunks size counters).map (fun b => ⟨s.counterPath, .metrics b⟩)
    ++ (chunks size general).map (fun b => ⟨s.generalPath, .metrics b⟩)
    ++ (chunks size lines).map (fun b => ⟨s.logPath, .logs b⟩)

/-- Everything in the queues as posts, and the queues without it. -/
def drain [Scalar α] (s : MetricsSettings) (p : Pipeline α) (now : Nat) :
    List (Post α) × Pipeline α :=
  let (events, p) := p.takeMetrics p.capacity
  let (lines, p) := p.takeLogs p.capacity
  let (counters, general, _) := (Aggregator.empty.addAll events).drain s.namePrefix now
  (posts s counters general lines, p)

/-! ### What is posted -/

/-- A record as it is posted, its fields in this order. -/
def ofRecord (r : MetricRecord Binary64) : Json :=
  .object [("name", .string r.name), ("value", .number (.float r.value)),
    ("type", .string r.kind.text), ("timestamp", .nat r.timestamp),
    ("tags", Json.ofTable .string r.tags)]

/-- A line as it is posted, its fields in this order. -/
def ofLine (l : LogLine) : Json :=
  .object [("id", .string l.id), ("message", .string l.message),
    ("level", .string l.level.text), ("timestamp", .nat l.timestamp)]

/-- The body of a batch. -/
def body (b : Batch Binary64) : Bytes :=
  utf8 (Json.compact (match b with
    | .metrics records => .object [("metrics", .array (records.map ofRecord))]
    | .logs lines => .object [("logs", .array (lines.map ofLine))]))

/-- The request that posts a batch to a host. -/
def request? (s : MetricsSettings) (schema host : String) (p : Post Binary64) :
    Option Request := do
  let r ← Request.to? "POST" (schema ++ "://" ++ host ++ p.path) s.httpTimeout
  let r ← r.withField? .contentType "application/json"
  return { r with body := body p.batch }

/-- What a status says of a batch. Only those from 400 to 599 stand for errors. -/
def ofStatus (status : Nat) : PostResult :=
  if 400 ≤ status ∧ status < 600 then .refused else .accepted

/-- Whether the collector took a batch. The body of its reply does not matter. -/
def result : Outcome → PostResult
  | .reply r => ofStatus r.status
  | .cut status _ _ => ofStatus status
  | .failed .timedOut => .timedOut
  | .failed (.broken _) => .refused

/-! ### Posting -/

variable {m : Type → Type} [Monad m]

/-- A batch posted until it is not for time that it fails, and at most once more than a
number of times. Tells whether it was accepted. -/
def send (post : m PostResult) : (more : Nat) → m Bool
  | 0 => do
    let r ← post
    return r = .accepted
  | more + 1 => do
    match ← post with
    | .accepted => return true
    | .refused => return false
    | .timedOut => send post more

/-- Posts in turn, each up to the number of times that the settings give, at least once. -/
def sendAll (s : MetricsSettings) (post : Post α → m PostResult) : List (Post α) → m Unit
  | [] => pure ()
  | p :: rest => do
    let _ ← send (post p) (s.maxTryTimes - 1)
    sendAll s post rest

variable [Outside m]

/-- A batch posted once to the best host of its path. -/
def post (s : MetricsSettings) (schema : String) (hostOf : String → String)
    (p : Post Binary64) : m PostResult := do
  match request? s schema (hostOf p.path) p with
  | none => return .refused
  | some r =>
    let e ← Outside.exchange r
    return result e.outcome

/-- **A report** of everything in the queues of a sink, and the sink after it. -/
def flush (s : MetricsSettings) (schema : String) (hostOf : String → String)
    (sink : Sink Binary64) : m (Sink Binary64) := do
  match sink.pipeline with
  | none => return sink
  | some p =>
    let now ← Outside.now
    let (batches, p) := drain s p now
    sendAll s (post s schema hostOf) batches
    return ⟨some p⟩

end Report

end Courier
