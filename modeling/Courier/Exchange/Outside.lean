import Courier.Exchange.Basic
import Courier.Pacing.Backoff

/-!
# The outside

Everything that this library needs from outside, in five operations: requests are sent,
time passes, and there are chance and a clock. All that is more than a rule is written over a
monad that has them (`Courier.Outside`). A program supplies sockets and a clock; a list of
outcomes does as well.
-/

namespace Courier

/-- What is needed from outside. -/
class Outside (m : Type → Type) where
  /-- Send a request and read the reply. -/
  exchange : Request → m Exchange
  /-- Wait for so many milliseconds. -/
  pause : Nat → m Unit
  /-- The seconds since the beginning of 1970. -/
  now : m Nat
  /-- An identifier that no other request has: eight hexadecimal digits, a hyphen, and
  more. -/
  freshId : m String
  /-- A number drawn at random from those below a bound. -/
  draw : Nat → m Nat

namespace Backoff

variable {m : Type → Type} [Monad m] [Outside m]

/-- Wait after an attempt, counted from one. -/
def rest (b : Backoff) (attempt : Nat) : m Unit := do
  let n ← Outside.draw (b.spread attempt)
  Outside.pause (b.wait attempt n)

end Backoff

end Courier
