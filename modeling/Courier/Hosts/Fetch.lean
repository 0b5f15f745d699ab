import Courier.Exchange.Outside
import Courier.Hosts.Reading

/-!
# Fetching a host map

A management server can be asked for the host map of a project, through any of the hosts.
An attempt is **conclusive** if the server says that it has none, or sends a body
(`Fetcher.conclusion?`); anything else – no reply, another status, an empty or broken
body – is tried again after a wait, as long as attempts are left.
-/

namespace Courier

/-- What came of fetching. -/
inductive Fetched where
  | found (m : HostMap)
  /-- The server has no host map for the project. -/
  | notFound
  /-- What the server sent is no host map. -/
  | rejected
  /-- No attempt was conclusive. -/
  | exhausted
deriving DecidableEq

/-- How a host map is fetched. -/
structure Fetcher where
  projectId : String
  /-- How long an attempt may take, in milliseconds. -/
  timeout : Nat
  policy : RetryPolicy
deriving DecidableEq

namespace Fetcher

/-- The wait between attempts: from a tenth of a second up to a second. -/
def backoff : Backoff := ⟨100, 1000⟩

/-- A fetcher with at most so many attempts, at least one. -/
def ofAttempts (projectId : String) (timeout attempts : Nat) : Fetcher :=
  ⟨projectId, timeout, .ofAttempts attempts backoff⟩

/-- The path of the management server. -/
def path : String := "/data/api/sdk/host"

/-- The address that is asked through a host. -/
def address (f : Fetcher) (host : String) : String :=
  "http://" ++ host ++ path ++ "?project_id=" ++ f.projectId

/-- What a body says. -/
def ofBody (body : Bytes) : Fetched :=
  match HostMap.read? body with
  | some m => .found m
  | none => .rejected

/-- Whether a status says that the request was successful. -/
def isSuccess (status : Nat) : Bool := 200 ≤ status && status < 300

/-- What an attempt says, if it is conclusive. -/
def conclusion? : Outcome → Option Fetched
  | .reply r =>
    if r.status = 404 then some .notFound
    else if isSuccess r.status && !r.body.isEmpty then some (ofBody r.body)
    else none
  -- the status alone settles that there is no map, whatever becomes of the body
  | .cut status _ _ => if status = 404 then some .notFound else none
  | .failed _ => none

variable {m : Type → Type} [Monad m] [Outside m]

/-- One attempt. -/
def attempt (f : Fetcher) (host : String) : m (Option Fetched) := do
  match Request.to? "GET" (f.address host) f.timeout with
  | none => return none
  | some r =>
    let e ← Outside.exchange r
    return conclusion? e.outcome

/-- Attempts from a number on, with so many after the first of them. -/
def attempts (f : Fetcher) (host : String) : (more number : Nat) → m Fetched
  | 0, _ => do
    let r ← f.attempt host
    return r.getD .exhausted
  | more + 1, number => do
    match ← f.attempt host with
    | some r => return r
    | none =>
      f.policy.backoff.rest number
      f.attempts host more (number + 1)

/-- **Fetching** through a host. -/
def fetch (f : Fetcher) (host : String) : m Fetched :=
  f.attempts host (f.policy.attempts - 1) 1

end Fetcher

end Courier
