/-!
# Options of a call

What a call asks for beyond its path and body. Extra header fields are kept in the order
in which they are given, repeated names included; of query parameters with one name only
the **last** is kept, at the end.
-/

namespace Courier

/-- Options of a call. -/
structure CallOptions where
  /-- The identifier of the request; one is made if there is none. -/
  requestId : Option String := none
  /-- How long the call may take, in microseconds. -/
  timeout : Option Nat := none
  /-- How long the server may work on it, in microseconds. -/
  serverTimeout : Option Nat := none
  headers : List (String × String) := []
  queries : List (String × String) := []
deriving DecidableEq, Inhabited

namespace CallOptions

/-- The options with an identifier. -/
def withRequestId (o : CallOptions) (id : String) : CallOptions := { o with requestId := some id }

/-- The options with a time limit. -/
def withTimeout (o : CallOptions) (micros : Nat) : CallOptions := { o with timeout := some micros }

/-- The options with a time limit for the server. -/
def withServerTimeout (o : CallOptions) (micros : Nat) : CallOptions :=
  { o with serverTimeout := some micros }

/-- The options with one more header field. -/
def withHeader (o : CallOptions) (name value : String) : CallOptions :=
  { o with headers := o.headers ++ [(name, value)] }

/-- The options with a query parameter, in place of one of the same name. -/
def withQuery (o : CallOptions) (name value : String) : CallOptions :=
  { o with queries := o.queries.filter (·.1 ≠ name) ++ [(name, value)] }

end CallOptions

end Courier
