import Courier.Hosts.Directory
import Courier.Hosts.Ping
import Courier.Pacing.Ticker
import Courier.Settings.Basic

/-!
# Keeping the directory up to date

A directory together with all that is needed to keep it up to date: a way to score hosts,
a fetcher if there is a server to ask, and the times at which either is due.

Hosts are scored by pings (`Scorer.pings`) or in a way of the user's own
(`Scorer.custom`). Pings leave lines for the log; they are gathered until somebody takes
them (`Upkeep.takeLines`).
-/

namespace Courier

/-- How hosts are scored. -/
inductive Scorer (m : Type → Type) where
  | pings (p : Prober)
  | custom (score : List String → m (List (Score Binary64)))

/-- A directory that is kept up to date. -/
structure Upkeep (m : Type → Type) where
  directory : Directory
  scorer : Scorer m
  record : TrackRecord
  fetcher : Option Fetcher
  scoreTicker : Ticker
  fetchTicker : Ticker
  /-- What the pings left for the log, oldest first. -/
  lines : List LogLine

namespace Upkeep

variable {m : Type → Type} [Monad m] [Outside m]

/-- A directory of hosts for all paths, not yet scored. The tickers start at a time. -/
def new (s : AvailabilitySettings) (hosts : List String) (scorer : Scorer m)
    (fetcher : Option Fetcher) (now : Nat) : Except DirectoryError (Upkeep m) :=
  (Directory.ofHosts hosts fetcher).map fun d =>
    { directory := d
      scorer := scorer
      record := .ofSize s.windowSize
      fetcher := fetcher
      scoreTicker := .start s.scoreInterval now
      fetchTicker := .start s.fetchInterval now
      lines := [] }

/-- A scoring pass. -/
def score (hosts : List String) : StateT (Upkeep m) m (List (Score Binary64)) := do
  let u ← get
  match u.scorer with
  | .custom f => liftM (f hosts)
  | .pings p =>
    let (record, scores, lines) ←
      liftM (p.score u.record hosts : m (TrackRecord × List (Score Binary64) × List LogLine))
    set { u with record := record, lines := u.lines ++ lines }
    return scores

/-- An operation on the directory. -/
def onDirectory {β : Type} (f : Directory → StateT (Upkeep m) m (Directory × β)) :
    StateT (Upkeep m) m β := do
  let (d, result) ← f (← get).directory
  modify fun u => { u with directory := d }
  return result

/-- Rank the hosts in use anew. Tells whether anything changed. -/
def rescore : StateT (Upkeep m) m Bool := onDirectory fun d => d.rescore score

/-- Rank a host map and take it into use. Tells whether anything changed. -/
def rebase (base : HostMap) : StateT (Upkeep m) m Bool := onDirectory fun d => d.rebase score base

/-- Ask the server for a host map. -/
def refresh : StateT (Upkeep m) m Refreshed := do
  let fetch := (← get).fetcher.map fun f host => (f.fetch host : m Fetched)
  onDirectory fun d => d.refresh score (fetch.map fun f host => liftM (f host))

/-- The first ranking, and the first question to the server if there is one. -/
def start : StateT (Upkeep m) m Unit := do
  let _ ← rescore
  if (← get).fetcher.isSome then
    let _ ← refresh

/-- Whatever is due at a time. Nothing is due when the directory was shut down. -/
def tick (now : Nat) : StateT (Upkeep m) m Unit := do
  let u ← get
  if u.directory.isShut then return
  if u.scoreTicker.isDue now then
    let _ ← rescore
    modify fun u => { u with scoreTicker := u.scoreTicker.next now }
  if u.fetcher.isSome && u.fetchTicker.isDue now then
    let _ ← refresh
    modify fun u => { u with fetchTicker := u.fetchTicker.next now }

/-- The directory is not to be changed any more. -/
def shut (u : Upkeep m) : Upkeep m := { u with directory := u.directory.shut }

/-- The lines left for the log. -/
def takeLines (u : Upkeep m) : List LogLine × Upkeep m := (u.lines, { u with lines := [] })

/-- The directory as a diagnostic shows it. -/
def shown (u : Upkeep m) : String := u.directory.shown u.fetcher.isSome

end Upkeep

end Courier
