/-!
# Asking background work to stop

Whoever may ask background work to stop **holds** its stop (`Stop.hold`); a holder may ask
(`Stop.trigger`) or let go (`Stop.letGo`). Background work waits for its release, which
comes when a holder has asked or when none is left that could ask, so work never outlives
all that could stop it (`Stop.isReleased`).

Asking twice is the same as asking once, and it cannot be taken back.
-/

namespace Courier

/-- What the holders of a stop and the work share. -/
structure Stop where
  isTriggered : Bool
  holders : Nat
deriving DecidableEq, Inhabited

namespace Stop

/-- A stop with one holder, who has not asked. -/
def new : Stop := ⟨false, 1⟩

/-- One more holder. -/
def hold (s : Stop) : Stop := { s with holders := s.holders + 1 }

/-- One holder less. -/
def letGo (s : Stop) : Stop := { s with holders := s.holders - 1 }

/-- A holder asks. -/
def trigger (s : Stop) : Stop := { s with isTriggered := true }

/-- Whether work that waits goes on waiting no longer. -/
def isReleased (s : Stop) : Bool := s.isTriggered || s.holders == 0

@[simp] theorem trigger_trigger (s : Stop) : s.trigger.trigger = s.trigger := rfl

@[simp] theorem isReleased_trigger (s : Stop) : s.trigger.isReleased = true := rfl

end Stop

end Courier
