import Courier.Telemetry.Event
import Courier.Telemetry.Statistics
import Courier.Telemetry.Tag

/-!
# Samples taken together

Between two reports, samples are gathered series by series (`Aggregator.add`). Two samples
belong to one series if they agree in kind, name and tags, **whatever the order of the
tags**. `Aggregator.drain` turns the gathered samples into records and forgets them:

| kind | records of a series |
|---|---|
| counter | one with the sum, in the order of arrival |
| timer | one for each statistic of the sorted values |
| store | one with the last value |
-/

namespace Courier

/-- What tells a series from another. -/
structure SeriesKey where
  kind : MetricKind
  name : String
  /-- In ascending order. -/
  tags : List String
deriving DecidableEq, Inhabited

/-- A line of a report. -/
structure MetricRecord (α : Type) where
  name : String
  value : α
  kind : MetricKind
  /-- Seconds since the beginning of 1970. -/
  timestamp : Nat
  tags : Table String
deriving DecidableEq

/-- The series that a sample belongs to. -/
def MetricEvent.key {α : Type} (e : MetricEvent α) : SeriesKey :=
  ⟨e.kind, e.name, e.tags.mergeSort fun a b => a ≤ b⟩

/-- The samples of the series met so far, each in order of arrival. -/
structure Aggregator (α : Type) where
  series : List (SeriesKey × List α)
deriving DecidableEq

namespace Aggregator

variable {α : Type}

/-- No sample. -/
def empty : Aggregator α := ⟨[]⟩

instance : Inhabited (Aggregator α) := ⟨empty⟩

/-- Whether there is no sample. -/
def isEmpty (a : Aggregator α) : Bool := a.series.isEmpty

/-- One more value for a series, which is begun if it is new. -/
def addValue (k : SeriesKey) (v : α) : List (SeriesKey × List α) → List (SeriesKey × List α)
  | [] => [(k, [v])]
  | (k', vs) :: rest =>
    if k = k' then (k', vs ++ [v]) :: rest else (k', vs) :: addValue k v rest

/-- One more sample. -/
def add (a : Aggregator α) (e : MetricEvent α) : Aggregator α :=
  ⟨addValue e.key e.value a.series⟩

/-- Samples in turn. -/
def addAll (a : Aggregator α) (l : List (MetricEvent α)) : Aggregator α := l.foldl add a

variable [Scalar α]

/-- The values that are reported of a series, with what they add to its name. -/
def reported (kind : MetricKind) (values : List α) : List (String × α) :=
  match kind with
  | .counter => [("", Scalar.sum values)]
  | .timer =>
    (statistics (Scalar.ascending values)).map fun s => ("." ++ s.1.name, s.2)
  | .store => values.getLast?.toList.map fun v => ("", v)

/-- The records of a series. -/
def records (namePrefix : String) (timestamp : Nat) (s : SeriesKey × List α) :
    List (MetricRecord α) :=
  (reported s.1.kind s.2).map fun r =>
    { name := namePrefix ++ "." ++ s.1.name ++ r.1
      value := r.2
      kind := s.1.kind
      timestamp := timestamp
      tags := Tag.parse s.1.tags }

/-- The records of all series of a kind. -/
def recordsOf (a : Aggregator α) (kind : MetricKind) (namePrefix : String) (timestamp : Nat) :
    List (MetricRecord α) :=
  (a.series.filter (·.1.kind = kind)).flatMap (records namePrefix timestamp)

/-- **What is reported**: the records of counters, the other records, and the aggregator
without any sample. -/
def drain (a : Aggregator α) (namePrefix : String) (timestamp : Nat) :
    List (MetricRecord α) × List (MetricRecord α) × Aggregator α :=
  (a.recordsOf .counter namePrefix timestamp,
    a.recordsOf .timer namePrefix timestamp ++ a.recordsOf .store namePrefix timestamp,
    empty)

end Aggregator

end Courier
