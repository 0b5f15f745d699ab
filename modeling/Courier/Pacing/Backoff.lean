/-!
# Waiting between attempts

A failed attempt is followed by a wait that doubles each time, up to a greatest wait, and
by up to a tenth of it more, drawn at random, so that many clients that failed together do
not come back together.

The wait is computed in numbers of 64 bits that **stay at the greatest number** where they
would pass it (`Backoff.saturated`), so a high attempt number does no harm
(`Backoff.least`). Only the last step does not: a sum of wait and random part that is beyond
the greatest number breaks the computation off (`Backoff.wait?`).

* `Backoff.least` – the wait without the random part;
* `Backoff.spread` – how many random parts there are, from zero up;
* `Backoff.wait` – the wait with a random part, in numbers without bound;
* `Backoff.wait?` – the same in numbers of 64 bits, if there is one;
* `RetryPolicy` – how many attempts there are, at least one, and the wait between them.
-/

namespace Courier

/-- How the wait grows, in milliseconds. -/
structure Backoff where
  /-- The wait after the first attempt. -/
  start : Nat
  /-- The greatest wait. -/
  most : Nat
deriving DecidableEq, Inhabited

namespace Backoff

/-- The greatest number of 64 bits. -/
def greatest : Nat := Nat.pow 2 64 - 1

/-- A number, or the greatest number if it is beyond. -/
def saturated (n : Nat) : Nat := min n greatest

/-- A power of two, or the greatest number if it is beyond. -/
def powerOfTwo (exponent : Nat) : Nat := if exponent < 64 then Nat.pow 2 exponent else greatest

/-- The wait after an attempt, counted from one, without the random part. There is none
before the first attempt. -/
def least (b : Backoff) (attempt : Nat) : Nat :=
  if attempt = 0 then 0
  else min (saturated (b.start * powerOfTwo (attempt - 1))) b.most

/-- How many random parts there are: a tenth of the wait, at least the one of zero. -/
def spread (b : Backoff) (attempt : Nat) : Nat := max (b.least attempt / 10) 1

/-- The wait with a random part. -/
def wait (b : Backoff) (attempt draw : Nat) : Nat := b.least attempt + draw % b.spread attempt

/-- The wait with a random part as it is computed. There is none if the sum is no number of
64 bits. -/
def wait? (b : Backoff) (attempt draw : Nat) : Option Nat :=
  if b.wait attempt draw ≤ greatest then some (b.wait attempt draw) else none

/-- A wait is the least one and one of the random parts. -/
theorem wait_lt (b : Backoff) (attempt draw : Nat) :
    b.wait attempt draw < b.least attempt + b.spread attempt := by
  have : 0 < b.spread attempt := by unfold spread; omega
  simpa [wait] using Nat.mod_lt draw this

end Backoff

/-- How often something is attempted and how long to wait in between. -/
structure RetryPolicy where
  attempts : Nat
  backoff : Backoff
  one_le_attempts : 1 ≤ attempts
deriving DecidableEq

namespace RetryPolicy

/-- A policy of so many attempts, at least one. -/
def ofAttempts (attempts : Nat) (backoff : Backoff) : RetryPolicy :=
  ⟨max attempts 1, backoff, Nat.le_max_right ..⟩

/-- Whether another attempt may follow an attempt, counted from one. -/
def allowsAfter (p : RetryPolicy) (attempt : Nat) : Bool := attempt < p.attempts

end RetryPolicy

end Courier
