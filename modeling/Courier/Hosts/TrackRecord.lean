import Courier.Hosts.HostMap
import Courier.Hosts.Window

/-!
# Track records

The windows of all hosts that were ever pinged or reported on. A scoring pass over a
list of hosts has two ends, and outcomes reported from elsewhere may fall between them:

1. at its start (`TrackRecord.startPass`) the hosts **not** in the list lose their
   window;
2. at its end (`TrackRecord.endPass`) each host of the list gets its outcome, in order,
   and its score is read off its window at that moment.

A list of one host is not pinged at all, since there is nothing to rank
(`TrackRecord.isRanked`); its score is zero. `TrackRecord.pass` is a whole pass.
-/

namespace Courier

/-- The windows of the hosts, made when an outcome is first recorded. -/
structure TrackRecord where
  /-- The size of a window. -/
  size : Nat
  windows : Table Window
deriving Inhabited

namespace TrackRecord

/-- No window yet. -/
def ofSize (size : Nat) : TrackRecord := ⟨size, .empty⟩

/-- The window of a host, a fresh one if it has none. -/
def window (t : TrackRecord) (host : String) : Window :=
  (t.windows.get? host).getD (.ofSize t.size)

/-- One more outcome of a host. -/
def record (t : TrackRecord) (host : String) (success : Bool) : TrackRecord :=
  { t with windows := t.windows.insert host ((t.window host).put success) }

/-- The share of failures of a host that has a window. -/
def failureRate? (α : Type) [Scalar α] (t : TrackRecord) (host : String) : Option α :=
  (t.windows.get? host).map (Window.failureRate α)

/-- Whether a pass over these hosts pings them. -/
def isRanked (hosts : List String) : Bool := hosts.length != 1

/-- The start of a pass: windows of other hosts are dropped. -/
def startPass (t : TrackRecord) (hosts : List String) : TrackRecord :=
  { t with windows := t.windows.filter fun e => hosts.contains e.1 }

/-- The end of a pass: the outcomes recorded in order, and the scores at those
moments. -/
def endPass {α : Type} [Scalar α] (t : TrackRecord) :
    List (String × Bool) → TrackRecord × List (Score α)
  | [] => (t, [])
  | (host, success) :: rest =>
    let t := t.record host success
    let score := ⟨host, (t.window host).score α⟩
    let (t, scores) := t.endPass rest
    (t, score :: scores)

/-- **A pass** with the outcomes of the pings, of which there are none if the hosts are not
pinged. -/
def pass {α : Type} [Scalar α] (t : TrackRecord) (hosts : List String) (outcomes : List Bool) :
    TrackRecord × List (Score α) :=
  let t := t.startPass hosts
  -- with one host there is nothing to rank, but windows of others are dropped all the same
  if isRanked hosts then t.endPass (hosts.zip outcomes)
  else (t, hosts.map fun h => ⟨h, Scalar.ofNat 0⟩)

end TrackRecord

end Courier
