import Courier.Exchange.Outside

/-!
# An outside that is written down

A script (`Courier.Script`) says beforehand what the outside answers: to the first request, to
the second, and so on. A playback (`Courier.Playback`) is a script that was read up to some
place, with what was asked of it so far: the requests that were sent and the pauses that were
made, in order.

Every sequence of answers is a script. So what holds of work on every script
(`Courier.OnScript`) holds whatever the outside does.
-/

namespace Courier

/-- What the outside answers, each kind of answer numbered from zero. -/
structure Script where
  exchange : Nat → Exchange
  now : Nat → Nat
  freshId : Nat → String
  draw : Nat → Nat
deriving Inhabited

/-- A script, how far it was read, and what was asked. -/
structure Playback where
  script : Script
  sent : List Request
  pauses : List Nat
  /-- How often the clock was read. -/
  readings : Nat
  /-- How many identifiers were made. -/
  ids : Nat
  /-- How many numbers were drawn. -/
  draws : Nat
deriving Inhabited

/-- Work on a script. -/
abbrev OnScript := StateM Playback

namespace Playback

/-- The script is read from its beginning. -/
def start (s : Script) : Playback := ⟨s, [], [], 0, 0, 0⟩

/-- One more request sent. -/
def exchange (r : Request) (p : Playback) : Exchange × Playback :=
  (p.script.exchange p.sent.length, { p with sent := p.sent ++ [r] })

/-- One more reading of the clock. -/
def now (p : Playback) : Nat × Playback :=
  (p.script.now p.readings, { p with readings := p.readings + 1 })

/-- One more identifier. -/
def freshId (p : Playback) : String × Playback :=
  (p.script.freshId p.ids, { p with ids := p.ids + 1 })

end Playback

instance : Outside OnScript where
  exchange r := modifyGet (Playback.exchange r)
  pause n := modify fun p => { p with pauses := p.pauses ++ [n] }
  now := modifyGet Playback.now
  freshId := modifyGet Playback.freshId
  draw bound := modifyGet fun p =>
    (p.script.draw p.draws % bound, { p with draws := p.draws + 1 })

namespace OnScript

theorem run_exchange (r : Request) (p : Playback) :
    (Outside.exchange r : OnScript Exchange).run p = pure (p.exchange r) := rfl

theorem run_now (p : Playback) : (Outside.now : OnScript Nat).run p = pure p.now := rfl

theorem run_freshId (p : Playback) :
    (Outside.freshId : OnScript String).run p = pure p.freshId := rfl

end OnScript

end Courier
