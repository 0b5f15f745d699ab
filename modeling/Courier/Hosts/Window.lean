import Courier.Number.Scalar

/-!
# The window of recent outcomes

What is remembered of a host: the last `size` outcomes of its pings, in a ring. The
slot that the next outcome overwrites holds the **oldest** remembered outcome, and the
number of failures among the slots is kept up to date by each `Window.put`.

A window starts full of successes, so a new host is not held back by its short history,
and it has at least one slot.

* `Window.put` – one more outcome;
* `Window.recent` – the remembered outcomes, oldest first;
* `Window.failureRate` – the share of failures among them.
-/

namespace Courier

/-- A ring of outcomes; `true` is a success. -/
structure Window where
  slots : List Bool
  /-- The slot that the next outcome overwrites. -/
  next : Nat
  /-- How many slots hold a failure. -/
  failures : Nat
deriving DecidableEq, Inhabited

namespace Window

/-- A window of a size, at least one, full of successes. -/
def ofSize (size : Nat) : Window := ⟨List.replicate (max size 1) true, 0, 0⟩

/-- How many outcomes are remembered. -/
def size (w : Window) : Nat := w.slots.length

/-- One more outcome in the place of the oldest. -/
def put (w : Window) (success : Bool) : Window :=
  let kept := if w.slots.getD w.next true then w.failures else w.failures - 1
  { slots := w.slots.set w.next success
    next := (w.next + 1) % w.slots.length
    failures := if success then kept else kept + 1 }

/-- Outcomes in turn. -/
def putAll (w : Window) (outcomes : List Bool) : Window := outcomes.foldl put w

/-- The remembered outcomes, oldest first. -/
def recent (w : Window) : List Bool := w.slots.drop w.next ++ w.slots.take w.next

/-- The share of failures among the remembered outcomes. -/
def failureRate (α : Type) [Scalar α] (w : Window) : α :=
  Scalar.div (Scalar.ofNat w.failures) (Scalar.ofNat w.size)

/-- The score of a host with this window: one less the share of failures. -/
def score (α : Type) [Scalar α] (w : Window) : α :=
  Scalar.sub (Scalar.ofNat 1) (w.failureRate α)

@[simp] theorem size_put (w : Window) (success : Bool) : (w.put success).size = w.size := by
  simp [put, size]

end Window

end Courier
