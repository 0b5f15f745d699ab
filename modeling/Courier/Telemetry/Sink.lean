import Courier.Settings.Basic
import Courier.Telemetry.Event

/-!
# The sink

What there is to report waits in two queues, one for samples and one for log lines, until
it is sent. A queue is **bounded**, which is part of its type: what comes when it is full
is dropped and counted (`Queue.offer?`, `Pipeline.dropped`), because reporting must never
hold up the work that is reported on.

A sink (`Sink`) may be disabled, and then discards everything; and its pipeline may be
without a queue for log lines, or closed, when nobody will ever take from it again. What
is emitted then is discarded as well, and not counted as dropped.
-/

namespace Courier

/-- A queue of at most so many items, oldest first. -/
structure Queue (β : Type) (capacity : Nat) where
  items : List β
  bounded : items.length ≤ capacity
deriving DecidableEq

namespace Queue

variable {β : Type} {capacity : Nat}

/-- An empty queue. -/
def empty : Queue β capacity := ⟨[], Nat.zero_le _⟩

/-- The queue with one more item, if there is room for it. -/
def offer? (q : Queue β capacity) (x : β) : Option (Queue β capacity) :=
  if h : q.items.length < capacity then
    some ⟨q.items ++ [x], by simp only [List.length_append, List.length_singleton]; omega⟩
  else none

/-- The oldest items, at most so many, and the queue without them. -/
def take (q : Queue β capacity) (count : Nat) : List β × Queue β capacity :=
  (q.items.take count, ⟨q.items.drop count, by
    have := q.bounded
    simp only [List.length_drop]
    omega⟩)

end Queue

/-- The queues of a sink that is not disabled. -/
structure Pipeline (α : Type) where
  capacity : Nat
  metrics : Queue (MetricEvent α) capacity
  /-- Absent if log lines are not reported. -/
  logs : Option (Queue LogLine capacity)
  /-- How many emissions found their queue full. -/
  dropped : Nat
  /-- Whether somebody takes from the queues. -/
  isOpen : Bool

namespace Pipeline

variable {α : Type}

/-- The empty queues that the settings ask for, with room for at least one item. -/
def ofSettings (s : MetricsSettings) : Pipeline α where
  capacity := max s.queueCapacity 1
  metrics := .empty
  logs := if s.reportLogs then some .empty else none
  dropped := 0
  isOpen := true

/-- One more sample. -/
def addMetric (p : Pipeline α) (e : MetricEvent α) : Pipeline α :=
  if p.isOpen then
    match p.metrics.offer? e with
    | some q => { p with metrics := q }
    | none => { p with dropped := p.dropped + 1 }
  else p

/-- One more log line. -/
def addLog (p : Pipeline α) (l : LogLine) : Pipeline α :=
  match p.isOpen, p.logs with
  | true, some q =>
    match q.offer? l with
    | some q => { p with logs := some q }
    | none => { p with dropped := p.dropped + 1 }
  | _, _ => p

/-- Samples taken off their queue, at most so many. -/
def takeMetrics (p : Pipeline α) (count : Nat) : List (MetricEvent α) × Pipeline α :=
  let (taken, q) := p.metrics.take count
  (taken, { p with metrics := q })

/-- Log lines taken off their queue, at most so many. -/
def takeLogs (p : Pipeline α) (count : Nat) : List LogLine × Pipeline α :=
  match p.logs with
  | some q =>
    let (taken, q) := q.take count
    (taken, { p with logs := some q })
  | none => ([], p)

/-- The pipeline when nobody will take from it any more. -/
def close (p : Pipeline α) : Pipeline α :=
  { p with metrics := .empty, logs := p.logs.map fun _ => .empty, isOpen := false }

end Pipeline

/-- Where emissions go. -/
structure Sink (α : Type) where
  /-- Absent if the sink is disabled. -/
  pipeline : Option (Pipeline α)

namespace Sink

variable {α : Type}

instance : Inhabited (Sink α) := ⟨⟨none⟩⟩

/-- The sink that discards everything. -/
def disabled : Sink α := ⟨none⟩

/-- A sink with empty queues. -/
def ofSettings (s : MetricsSettings) : Sink α := ⟨some (.ofSettings s)⟩

/-- Whether the sink keeps anything. -/
def isEnabled (s : Sink α) : Bool := s.pipeline.isSome

/-- How many emissions found their queue full. -/
def dropped (s : Sink α) : Nat := (s.pipeline.map Pipeline.dropped).getD 0

/-- One more emission. -/
def emit (s : Sink α) (e : Emission α) : Sink α :=
  match e with
  | .metric e => ⟨s.pipeline.map (·.addMetric e)⟩
  | .log l => ⟨s.pipeline.map (·.addLog l)⟩

/-- Emissions in turn. -/
def emitAll (s : Sink α) (l : List (Emission α)) : Sink α := l.foldl emit s

/-- The sink when nobody will take from its queues any more. -/
def close (s : Sink α) : Sink α := ⟨s.pipeline.map Pipeline.close⟩

end Sink

end Courier
