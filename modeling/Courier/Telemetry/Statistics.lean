import Courier.Number.Scalar

/-!
# Statistics of a sample

What is reported of a timer are the greatest, the least and the mean of its values, and
four percentiles. A percentile lies at a **position** in the sorted values, counted from
one, and between two values it is interpolated (`percentile`): the position of the share
`p` among `n` values is `p · (n + 1)`, so the `k`-th value is the percentile of
`k / (n + 1)`.

The list of statistics is `Statistic.all`, in the order in which they are reported.
-/

namespace Courier

variable {α : Type} [Scalar α]

/-- The percentile of a share, given the values in ascending order; zero if there are
none. -/
def percentile (sorted : List α) (p : α) : α :=
  let zero : α := Scalar.ofNat 0
  let count := sorted.length
  let position := Scalar.mul p (Scalar.add (Scalar.ofNat count) (Scalar.ofNat 1))
  if count = 0 then zero
  else if Scalar.lt position (Scalar.ofNat 1) then sorted.headD zero
  else if Scalar.le (Scalar.ofNat count) position then sorted.getLastD zero
  else
    let below := Scalar.floor position
    let lower := sorted.getD (below - 1) zero
    let upper := sorted.getD below zero
    Scalar.add lower
      (Scalar.mul (Scalar.sub position (Scalar.ofNat below)) (Scalar.sub upper lower))

/-- A statistic of a sample. -/
inductive Statistic where
  | greatest
  | least
  | mean
  /-- The percentile of a share given in hundredths. -/
  | percentile (hundredths : Nat)
deriving DecidableEq, Inhabited

namespace Statistic

/-- What is reported of a timer. -/
def all : List Statistic :=
  [.greatest, .least, .mean, .percentile 75, .percentile 90, .percentile 95, .percentile 99]

/-- The word for a statistic, which is added to the name of the series. -/
def name : Statistic → String
  | .greatest => "max"
  | .least => "min"
  | .mean => "avg"
  | .percentile hundredths => "pct" ++ toString hundredths

/-- A statistic of values in ascending order, of which there is at least one. -/
def value (sorted : List α) : Statistic → α
  | .greatest => sorted.getLastD (Scalar.ofNat 0)
  | .least => sorted.headD (Scalar.ofNat 0)
  | .mean =>
    let total := sorted.tail.foldl Scalar.add (sorted.headD (Scalar.ofNat 0))
    Scalar.div total (Scalar.ofNat sorted.length)
  | .percentile hundredths =>
    Courier.percentile sorted (Scalar.div (Scalar.ofNat hundredths) (Scalar.ofNat 100))

end Statistic

/-- The statistics of values in ascending order; none if there are no values. -/
def statistics (sorted : List α) : List (Statistic × α) :=
  if sorted.isEmpty then [] else Statistic.all.map fun s => (s, s.value sorted)

end Courier
