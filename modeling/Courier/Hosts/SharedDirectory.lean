import Courier.Hosts.Directory

/-!
# A directory under overlapping operations

The operations of `Courier.Directory` wait for the outside: for the reply of a server, for
the scores of a pass. Meanwhile others may be under way, and the directory may be shut. This
file takes the operations apart into the steps between which that can happen.

A **lock** keeps apart what must not overlap. An operation takes it before it loads the map
in use or compares with it, keeps it while hosts are scored, and releases it after it has
adopted a map. The question to the server comes **before** the lock.

| stage | the step that follows |
|---|---|
| `called` | look whether the directory was shut |
| `admitted` | read the host that is asked (refresh only) |
| `addressed` | send the request |
| `asked` | the reply (`Event.reply`) |
| `queued` | take the lock, if nobody has it |
| `entered` | load the map in use, or compare with it |
| `scoring` | the scores (`Event.score`) |
| `scored` | adopt the base map, ranked |
| `leaving` | release the lock |
| `finished` | none |

An event that the stage of its operation does not admit changes nothing, so **every list of
events is a schedule** (`SharedDirectory.run`): any number of operations, in any order, with
any answers of the outside.

What came into use, and by whom, is recorded in `SharedDirectory.stores`; no step reads it.
-/

namespace Courier

namespace SharedDirectory

/-- What can be asked of a directory. -/
inductive Operation where
  | rescore
  | rebase (base : HostMap)
  | refresh
deriving DecidableEq

/-- What an operation answers. -/
inductive Answer where
  | changed (isChanged : Bool)
  | refreshed (r : Refreshed)
deriving DecidableEq

namespace Operation

/-- The answer of an operation that ranked a map. -/
def answer : Operation → Bool → Answer
  | .refresh, true => .refreshed .applied
  | .refresh, false => .refreshed .unchanged
  | _, isChanged => .changed isChanged

/-- The answer of an operation that finds the directory shut. -/
def refusal : Operation → Answer
  | .refresh => .refreshed .skipped
  | _ => .changed false

end Operation

/-- How far an operation has come. -/
inductive Stage (α : Type) where
  | called
  | admitted
  | addressed (host : String)
  | asked (host : String)
  /-- Waiting for the lock, with the map that was fetched, if one was. -/
  | queued (fetched : Option HostMap)
  | entered (fetched : Option HostMap)
  | scoring (base : HostMap)
  | scored (base : HostMap) (scores : List (Score α))
  | leaving (answer : Answer)
  | finished (answer : Answer)

namespace Stage

variable {α : Type}

/-- After the look whether the directory was shut. -/
def admission (op : Operation) (d : Directory) (isRemote : Bool) : Stage α :=
  if d.isShut then .finished op.refusal
  else
    match op with
    | .refresh => if isRemote then .admitted else .finished op.refusal
    | _ => .queued none

/-- After the reply of the server. -/
def ofReply : Fetched → Stage α
  | .found base => .queued (some base)
  | .notFound => .finished (.refreshed .notFound)
  | .rejected => .finished (.refreshed .rejected)
  | .exhausted => .finished (.refreshed .exhausted)

/-- After the look at the map in use: it is what a rescore ranks, and a fetched map with the
same hosts is not ranked at all. -/
def entry (op : Operation) (current : HostMap) (fetched : Option HostMap) : Stage α :=
  match op, fetched with
  | .refresh, some base =>
    if base.sameHosts current then .leaving (.refreshed .unchanged) else .scoring base
  | .rebase base, _ => .scoring base
  | _, _ => .scoring current

end Stage

/-- An operation under way. -/
structure Process (α : Type) where
  operation : Operation
  stage : Stage α

/-- A map that came into use. -/
structure Store where
  /-- The number of the operation that stored it. -/
  process : Nat
  operation : Operation
  /-- The map that was ranked. -/
  base : HostMap
  map : HostMap

/-- What happens. -/
inductive Event (α : Type) where
  | call (op : Operation)
  | shut
  /-- An operation does the step that follows. -/
  | move (i : Nat)
  /-- An operation gets the reply of the server. -/
  | reply (i : Nat) (fetched : Fetched)
  /-- An operation gets the scores of its hosts. -/
  | score (i : Nat) (scores : List (Score α))

end SharedDirectory

open SharedDirectory in
/-- A directory with the operations under way, numbered in the order of their calls. -/
structure SharedDirectory (α : Type) where
  directory : Directory
  /-- Whether there is a server to ask. -/
  isRemote : Bool
  /-- The operation that has the lock. -/
  holder : Option Nat
  processes : List (Process α)
  /-- What came into use so far, the latest first. -/
  stores : List Store

namespace SharedDirectory

variable {α : Type} [Scalar α]

/-- A directory of which nothing was asked yet. -/
def start (d : Directory) (isRemote : Bool) : SharedDirectory α := ⟨d, isRemote, none, [], []⟩

/-- An operation put at another stage. -/
def put (s : SharedDirectory α) (i : Nat) (op : Operation) (stage : Stage α) :
    SharedDirectory α :=
  { s with processes := s.processes.set i ⟨op, stage⟩ }

/-- The base map of an operation adopted, ranked by scores. -/
def adopt (s : SharedDirectory α) (i : Nat) (op : Operation) (base : HostMap)
    (scores : List (Score α)) : SharedDirectory α :=
  let (d, isChanged) := s.directory.adopt base scores
  let stores := if isChanged then ⟨i, op, base, d.current⟩ :: s.stores else s.stores
  { s with directory := d, stores := stores }.put i op (.leaving (op.answer isChanged))

/-- The step that follows, unless it is for the outside to answer. -/
def move (s : SharedDirectory α) (i : Nat) (op : Operation) : Stage α → SharedDirectory α
  | .called => s.put i op (.admission op s.directory s.isRemote)
  | .admitted => s.put i op (.addressed (s.directory.host defaultPath))
  | .addressed host => s.put i op (.asked host)
  | .queued fetched =>
    if s.holder = none then { s with holder := some i }.put i op (.entered fetched) else s
  | .entered fetched => s.put i op (.entry op s.directory.current fetched)
  | .scored base scores => s.adopt i op base scores
  | .leaving answer => { s with holder := none }.put i op (.finished answer)
  | .asked _ | .scoring _ | .finished _ => s

/-- What an event does. -/
def step (s : SharedDirectory α) : Event α → SharedDirectory α
  | .call op => { s with processes := s.processes ++ [⟨op, .called⟩] }
  | .shut => { s with directory := s.directory.shut }
  | .move i =>
    match s.processes[i]? with
    | some p => s.move i p.operation p.stage
    | none => s
  | .reply i fetched =>
    match s.processes[i]? with
    | some ⟨op, .asked _⟩ => s.put i op (.ofReply fetched)
    | _ => s
  | .score i scores =>
    match s.processes[i]? with
    | some ⟨op, .scoring base⟩ => s.put i op (.scored base scores)
    | _ => s

/-- **A schedule**: events in turn. -/
def run (s : SharedDirectory α) (events : List (Event α)) : SharedDirectory α :=
  events.foldl step s

end SharedDirectory

end Courier
