import Courier.Call.Error
import Courier.Call.Options
import Courier.Headers
import Courier.Settings.Basic

/-!
# The header of a call

The header is made from a list of entries (`CallFields.entries`): the standard ones, those
of the settings in ascending order, and those of the options. Every entry must be legal,
also one that a later entry replaces; **the last entry of a name counts**
(`CallFields.headers`).

Before the first entry is looked at, room is made for all of them, also for those of one name.
A header has no room for more than so many entries (`Headers.room`), and a call that has more
**breaks off** there, without a header and without an error (`CallFields.headers?`).
-/

namespace Courier

/-- For how many entries a header has room: three quarters of its 2 ^ 15 places. -/
def Headers.room : Nat := 24576

/-- What the calls of a client have in common in their headers. -/
structure CallFields where
  tenantId : String
  projectId : String
  hostHeader : Option String
  /-- In ascending order. -/
  extra : List (String × String)
deriving DecidableEq, Inhabited

namespace CallFields

/-- What the settings give. An empty name for the host counts as none. -/
def ofSettings (s : Settings) : CallFields where
  tenantId := s.tenantId
  projectId := s.projectId.getD ""
  hostHeader := s.hostHeader.filter (· ≠ "")
  extra := s.headers.entries

/-- An entry that is there only under a condition. -/
def onlyIf (condition : Bool) (name value : String) : List (String × String) :=
  if condition then [(name, value)] else []

/-- The entries of a header. -/
def entries (f : CallFields) (o : CallOptions) (contentType id : String) :
    List (String × String) :=
  [("Content-Encoding", "gzip"), ("Accept-Encoding", "gzip"), ("Content-Type", contentType),
    ("Accept", contentType), ("Tenant-Id", f.tenantId), ("Request-Id", id)]
    ++ onlyIf (f.projectId ≠ "") "Project-Id" f.projectId
    ++ f.hostHeader.toList.map (fun h => ("Host", h))
    ++ o.serverTimeout.toList.map (fun t => ("Timeout-Millis", toString (t / 1000)))
    ++ f.extra ++ o.headers

/-- Entries put into a header in turn, up to the first that is not legal. -/
def insertAll (h : Headers) : List (String × String) → Except String Headers
  | [] => .ok h
  | (name, value) :: rest =>
    match HeaderName.ofText? name with
    | none => .error ("invalid header name '" ++ name ++ "'")
    | some n =>
      match HeaderValue.ofText? value with
      | none => .error ("invalid header value '" ++ name ++ "'")
      | some v => insertAll (h.insert n v) rest

/-- The identifier of a request: the one given, unless it is empty, or else a fresh one. -/
def requestId (o : CallOptions) (fresh : String) : String :=
  match o.requestId with
  | some id => if id = "" then fresh else id
  | none => fresh

/-- **The header of a call** to an address, and the identifier of the request. -/
def headers (f : CallFields) (o : CallOptions) (address contentType fresh : String) :
    Except CallError (Headers × String) :=
  let id := requestId o fresh
  match insertAll .empty (f.entries o contentType id) with
  | .ok h => .ok (h, id)
  | .error message => .error (.invalidRequest address message)

/-- Whether a header has room for all entries of a call. -/
def hasRoom (f : CallFields) (o : CallOptions) : Bool :=
  (f.entries o "" "").length ≤ Headers.room

/-- **The header of a call as it is made**, unless there is no room for its entries and the call
breaks off. -/
def headers? (f : CallFields) (o : CallOptions) (address contentType fresh : String) :
    Option (Except CallError (Headers × String)) :=
  if f.hasRoom o then some (f.headers o address contentType fresh) else none

end CallFields

end Courier
