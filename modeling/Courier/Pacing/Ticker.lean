/-!
# Periodic work

A ticker says when periodic work is due next. Times are in milliseconds on any clock that
does not go back. The first time is one period after the start; if the work is noticed
late, the next time is one period **after it was noticed**, and times that were missed
are not made up for.
-/

namespace Courier

/-- When periodic work is due. -/
structure Ticker where
  period : Nat
  due : Nat
deriving DecidableEq, Inhabited

namespace Ticker

/-- A ticker started at a time. -/
def start (period now : Nat) : Ticker := ⟨period, now + period⟩

/-- Whether the work is due at a time. -/
def isDue (t : Ticker) (now : Nat) : Bool := t.due ≤ now

/-- The ticker after the work was begun at a time. -/
def next (t : Ticker) (now : Nat) : Ticker := { t with due := now + t.period }

end Ticker

end Courier
