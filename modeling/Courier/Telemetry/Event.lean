/-!
# What is reported

Two kinds of things are reported to a collector:

* **samples** of a series (`MetricEvent`): a counter adds up, a timer is summed up by
  statistics, and of a store the last value counts;
* **log lines** (`LogLine`), each under the identifier of the request it is about.

An operation does not report by itself. It returns what there is to report, a list of
`Emission`, and whoever runs it passes the list on to a sink.
-/

namespace Courier

/-- How the samples of a series are taken together. -/
inductive MetricKind where
  | counter
  | timer
  | store
deriving DecidableEq, Inhabited

/-- The word for a kind. -/
def MetricKind.text : MetricKind → String
  | .counter => "counter"
  | .timer => "timer"
  | .store => "store"

/-- A sample of a series. -/
structure MetricEvent (α : Type) where
  kind : MetricKind
  name : String
  value : α
  tags : List String
deriving DecidableEq, Inhabited

/-- How grave a log line is. -/
inductive LogLevel where
  | info
  | warn
  | error
deriving DecidableEq, Inhabited

/-- The word for a level. -/
def LogLevel.text : LogLevel → String
  | .info => "info"
  | .warn => "warn"
  | .error => "error"

/-- A line of the log. -/
structure LogLine where
  /-- The request that the line is about. -/
  id : String
  message : String
  level : LogLevel
  /-- Seconds since the beginning of 1970. -/
  timestamp : Nat
deriving DecidableEq, Inhabited

/-- Something to report. -/
inductive Emission (α : Type) where
  | metric (e : MetricEvent α)
  | log (l : LogLine)
deriving DecidableEq

namespace Series

/-- The time that calls take, in milliseconds. -/
def requestCost : String := "request.total.cost"

/-- The number of calls. -/
def requestCount : String := "request.count"

/-- The number of pings that keep connections open. -/
def heartbeatCount : String := "heartbeat.count"

/-- The number of failures. -/
def commonError : String := "common.err"

end Series

end Courier
