import Courier.Call.Caller
import Courier.Client.Builder
import Courier.Hosts.Keepalive
import Courier.Hosts.Upkeep
import Courier.Settings.File
import Courier.Telemetry.Report

/-!
# The client

A client ranks its hosts, makes calls to the best of them, and reports on itself. It is
built from settings (`Client.build`), which are checked first, so that nothing is asked of
the outside before they are known to be valid.

Its operations are over the state of the client:

* `Client.callBytes`, `Client.callReading` and, for any JSON, `Client.callJson` – calls;
* `Client.rescore`, `Client.rebase`, `Client.refresh` – the ranking of its hosts;
* `Client.tick` – whatever periodic work is due;
* `Client.shutDown` – no more periodic work, and a last report.
-/

namespace Courier

/-- Why there is no client. -/
inductive BuildError where
  | settings (e : SettingsError)
  | directory (e : DirectoryError)
deriving DecidableEq

/-- The message of an error. -/
def BuildError.message : BuildError → String
  | .settings e => e.message
  | .directory e => "host availability: " ++ e.message

/-- A client. -/
structure Client (m : Type → Type) where
  settings : Settings
  caller : Caller
  addresses : AddressBook
  upkeep : Upkeep m
  /-- How hosts are pinged to keep connections open. -/
  keepalive : Prober
  sink : Sink Binary64
  reportTicker : Ticker
  keepaliveTicker : Ticker
  isShut : Bool

namespace Settings

/-- How hosts are pinged, given how long an answer may take. -/
def prober (s : Settings) (timeout : Nat) : Prober where
  schema := s.schema
  path := s.availability.pingPath
  timeout := timeout
  hostHeader := s.hostHeader
  projectId := s.projectId.getD ""

/-- How host maps are fetched, if there is a project and they shall be. -/
def fetcher (s : Settings) : Option Fetcher :=
  match s.projectId with
  | some id =>
    if s.availability.fetchHostsFromServer then
      some (.ofAttempts id s.availability.fetchTimeout s.availability.fetchMaxAttempts)
    else none
  | none => none

/-- How calls are made. -/
def toCaller (s : Settings) : Caller where
  fields := .ofSettings s
  authentication := s.authentication
  timeout := s.caller.defaultTimeout

/-- Where emissions go. -/
def sink (s : Settings) : Sink Binary64 :=
  if s.metrics.enabled then .ofSettings s.metrics else .disabled

end Settings

namespace Client

variable {m : Type → Type} [Monad m] [Outside m]

/-! ### State -/

/-- Emissions go to the sink. -/
def emit (l : List (Emission Binary64)) : StateT (Client m) m Unit :=
  modify fun c => { c with sink := c.sink.emitAll l }

/-- An operation on the hosts. What the pings left for the log goes to the sink. -/
def onUpkeep {β : Type} (f : StateT (Upkeep m) m β) : StateT (Client m) m β := do
  let (result, u) ← liftM (f.run (← get).upkeep)
  let (lines, u) := u.takeLines
  modify fun c => { c with upkeep := u }
  emit (lines.map .log)
  return result

/-- Rank the hosts in use anew. -/
def rescore : StateT (Client m) m Bool := onUpkeep Upkeep.rescore

/-- Rank a host map and take it into use. -/
def rebase (base : HostMap) : StateT (Client m) m Bool := onUpkeep (Upkeep.rebase base)

/-- Ask the server for a host map. -/
def refresh : StateT (Client m) m Refreshed := onUpkeep Upkeep.refresh

/-- The best host of a path. -/
def host (c : Client m) (path : String) : String := c.upkeep.directory.host path

/-- All hosts, each once. -/
def hosts (c : Client m) : List String := c.upkeep.directory.hosts

/-! ### Building -/

/-- A client that has not asked anything of the outside. -/
def new (s : Settings) (scorer : Option (Scorer m)) (now : Nat) :
    Except BuildError (Client m) :=
  match s.check with
  | .error e => .error (.settings e)
  | .ok s =>
    let scorer := scorer.getD (.pings (s.prober s.availability.pingTimeout))
    match Upkeep.new s.availability s.resolvedHosts scorer s.fetcher now with
    | .error e => .error (.directory e)
    | .ok u => .ok {
        settings := s
        caller := s.toCaller
        addresses := .empty s.schema
        upkeep := u
        keepalive := s.prober s.caller.pingTimeout
        sink := s.sink
        reportTicker := .start s.metrics.flushInterval now
        keepaliveTicker := .start s.caller.pingInterval now
        isShut := false }

/-- **A client** with its hosts ranked, by a scorer of the user's own or else by pings.
Periodic work starts at a time. -/
def build (s : Settings) (scorer : Option (Scorer m)) (now : Nat) :
    m (Except BuildError (Client m)) := do
  match new s scorer now with
  | .error e => return .error e
  | .ok c =>
    let ((), c) ← (onUpkeep Upkeep.start).run c
    return .ok c

/-! ### Calls -/

/-- The address of a path on its best host. -/
def address (path : String) : StateT (Client m) m String := do
  let c ← get
  let (address, book) := c.addresses.get (c.host path) path
  set { c with addresses := book }
  return address

/-- What a call gives, once its emissions went to the sink. -/
def settle {β : Type} (r : CallReport β) : StateT (Client m) m (Except CallError β) := do
  emit r.emissions
  return r.result

/-- **A call** with a body of any type. -/
def callBytes (path : String) (body : Bytes) (contentType : String) (o : CallOptions) :
    StateT (Client m) m (Except CallError Bytes) := do
  let address ← address path
  let r ← liftM (m := m) ((← get).caller.callBytes o address contentType body)
  settle r

/-- **A call** whose body is JSON, and in whose reply something is read. -/
def callReading {β : Type} (read : Bytes → Except String β) (path : String)
    (body : Except String Bytes) (o : CallOptions) :
    StateT (Client m) m (Except CallError β) := do
  let address ← address path
  let r ← liftM (m := m) ((← get).caller.callReading read o address body)
  settle r

/-- **A call** whose body and reply are JSON. -/
def callJson (path : String) (body : Except String Bytes) (o : CallOptions) :
    StateT (Client m) m (Except CallError Json) :=
  callReading Caller.valueIn path body o

/-! ### Periodic work -/

/-- A report of everything in the sink. -/
def report : StateT (Client m) m Unit := do
  let c ← get
  let sink ← liftM (m := m) (Report.flush c.settings.metrics c.settings.schema c.host c.sink)
  set { c with sink := sink }

/-- Ping all hosts so that connections stay open. -/
def beat : StateT (Client m) m Nat := do
  let c ← get
  let (healthy, emissions) ← liftM (m := m) (c.keepalive.beat c.hosts)
  emit emissions
  return healthy

/-- Whatever periodic work is due at a time. -/
def tick (now : Nat) : StateT (Client m) m Unit := do
  onUpkeep (Upkeep.tick now)
  let c ← get
  if c.isShut then return
  if c.settings.metrics.enabled && c.reportTicker.isDue now then
    report
    modify fun c => { c with reportTicker := c.reportTicker.next now }
  if c.settings.keepAlive && c.keepaliveTicker.isDue now then
    let _ ← beat
    modify fun c => { c with keepaliveTicker := c.keepaliveTicker.next now }

/-- **The end of all periodic work**, with a last report. The client goes on making calls,
but nobody takes from its sink any more. A second time it does nothing. -/
def shutDown : StateT (Client m) m Unit := do
  if (← get).isShut then return
  modify fun c => { c with upkeep := c.upkeep.shut, isShut := true }
  report
  modify fun c => { c with sink := c.sink.close }

end Client

end Courier
