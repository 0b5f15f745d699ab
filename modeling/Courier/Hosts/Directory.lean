import Courier.Hosts.Fetch

/-!
# The directory of hosts

The directory holds the host map in use and answers which host is the best for a path. It
changes in one way only, `Directory.adopt`: a base map, ranked by the scores of a pass, is
adopted **if it differs** from the map in use. Three operations lead there:

| operation | base map |
|---|---|
| `Directory.rescore` | the map in use |
| `Directory.rebase` | a given map |
| `Directory.refresh` | the map that the server sends, unless it has the same hosts |

A directory that was shut down goes on answering and does not change any more.
-/

namespace Courier

/-- Why there is no directory. -/
inductive DirectoryError where
  | hosts (e : HostMapError)
  | noProject
deriving DecidableEq

/-- The message of an error. -/
def DirectoryError.message : DirectoryError → String
  | .hosts e => e.message
  | .noProject => "project id is empty"

/-- What a refresh did. -/
inductive Refreshed where
  | applied
  | unchanged
  | notFound
  | rejected
  | exhausted
  /-- Nothing is fetched, or the directory was shut down. -/
  | skipped
deriving DecidableEq, Inhabited

/-- The word for what a refresh did. -/
def Refreshed.text : Refreshed → String
  | .applied => "Applied"
  | .unchanged => "Unchanged"
  | .notFound => "NotFound"
  | .rejected => "Rejected"
  | .exhausted => "Exhausted"
  | .skipped => "Skipped"

/-- The host map in use. -/
structure Directory where
  current : HostMap
  isShut : Bool
deriving DecidableEq

namespace Directory

/-- A directory of hosts for all paths. A fetcher, if there is one, needs a project. -/
def ofHosts (hosts : List String) (fetcher : Option Fetcher) : Except DirectoryError Directory :=
  if fetcher.any (·.projectId = "") then .error .noProject
  else
    match HostMap.ofHosts hosts with
    | .ok m => .ok ⟨m, false⟩
    | .error e => .error (.hosts e)

/-- The best host of a path. -/
def host (d : Directory) (path : String) : String := d.current.host path

/-- All hosts, each once. -/
def hosts (d : Directory) : List String := d.current.distinct

/-- The directory, not to be changed any more. -/
def shut (d : Directory) : Directory := { d with isShut := true }

/-- **The one way to change**: a base map ranked by scores comes into use if there are
scores and it differs. Tells whether it did. -/
def adopt {α : Type} [Scalar α] (d : Directory) (base : HostMap) (scores : List (Score α)) :
    Directory × Bool :=
  if scores.isEmpty then (d, false)
  else
    let ranked := base.ranked scores
    if ranked = d.current then (d, false) else ({ d with current := ranked }, true)

/-- Adopting leaves a directory as it is, or replaces the map in use by the ranked base. -/
theorem adopt_eq_or {α : Type} [Scalar α] (d : Directory) (base : HostMap)
    (scores : List (Score α)) :
    d.adopt base scores = (d, false) ∨
      d.adopt base scores = ({ d with current := base.ranked scores }, true) := by
  simp only [adopt]
  split
  · exact Or.inl rfl
  · split
    · exact Or.inl rfl
    · exact Or.inr rfl

@[simp] theorem isShut_adopt {α : Type} [Scalar α] (d : Directory) (base : HostMap)
    (scores : List (Score α)) : (d.adopt base scores).1.isShut = d.isShut := by
  rcases d.adopt_eq_or base scores with h | h <;> rw [h]

/-- **What is adopted is in use**, also where it was in use before: there have only to be
scores. -/
theorem current_adopt {α : Type} [Scalar α] (d : Directory) (base : HostMap)
    {scores : List (Score α)} (h : scores ≠ []) :
    (d.adopt base scores).1.current = base.ranked scores := by
  have hne : scores.isEmpty = false := by simpa using h
  simp only [adopt, hne]
  by_cases heq : base.ranked scores = d.current
  · simp [heq]
  · simp [heq]

/-! ### Operations

They are given how hosts are scored, and `refresh` how a map is fetched. -/

variable {m : Type → Type} [Monad m] {α : Type} [Scalar α]

/-- A scoring pass over the hosts of a base map, which comes into use ranked by it. -/
def scoreAndAdopt (score : List String → m (List (Score α))) (d : Directory) (base : HostMap) :
    m (Directory × Bool) := do
  let scores ← score base.distinct
  return d.adopt base scores

/-- Rank the map in use anew. -/
def rescore (score : List String → m (List (Score α))) (d : Directory) : m (Directory × Bool) :=
  if d.isShut then return (d, false) else d.scoreAndAdopt score d.current

/-- Rank a map and take it into use. -/
def rebase (score : List String → m (List (Score α))) (d : Directory) (base : HostMap) :
    m (Directory × Bool) :=
  if d.isShut then return (d, false) else d.scoreAndAdopt score base

/-- What to do with a fetched map: rank it and take it into use, unless it has the same hosts
as the map in use. -/
def applyFetched (score : List String → m (List (Score α))) (d : Directory) (f : Fetched) :
    m (Directory × Refreshed) := do
  match f with
  | .notFound => return (d, .notFound)
  | .rejected => return (d, .rejected)
  | .exhausted => return (d, .exhausted)
  | .found base =>
    -- another order of the same hosts is no news: the order is what scoring is for
    if base.sameHosts d.current then return (d, .unchanged)
    else
      let (d, changed) ← d.scoreAndAdopt score base
      return (d, if changed then .applied else .unchanged)

/-- Ask the server for a map, through the best host of all paths. -/
def refresh (score : List String → m (List (Score α))) (fetch : Option (String → m Fetched))
    (d : Directory) : m (Directory × Refreshed) := do
  match fetch with
  | none => return (d, .skipped)
  | some fetch =>
    if d.isShut then return (d, .skipped)
    else
      let f ← fetch (d.host defaultPath)
      d.applyFetched score f

/-- Whether the directory may still change, in a word. -/
def stateText (d : Directory) : String := if d.isShut then "Shutdown" else "Running"

/-- A directory as a diagnostic shows it, and whether maps are fetched. -/
def shown (d : Directory) (isRemote : Bool) : String :=
  Quoted.record "HostAvailabilityManager" [("host_config", d.current.shown),
    ("remote", Quoted.bool isRemote), ("state", d.stateText)]

end Directory

end Courier
