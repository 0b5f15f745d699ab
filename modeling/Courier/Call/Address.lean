import Courier.Hosts.HostMap
import Courier.Text.Piece
import Courier.Url.Parser
import Courier.Url.Query

/-!
# The address of a call

A call to a path goes to the best host of that path. One slash at the beginning of the path
is optional (`callPath`). Query parameters are added at the end of the query of the address
(`withQueries`); without any, the address stays as it is and need not even be one.

An `AddressBook` keeps the addresses that were asked for, so that each text is put together
only once. It gives the same answers as `callAddress`.
-/

namespace Courier

/-- A path without one slash at its beginning. -/
def callPath (path : String) : String :=
  match path.toList with
  | '/' :: rest => String.ofList rest
  | _ => path

/-- The address of a path on a host. -/
def callAddress (schema host path : String) : String :=
  schema ++ "://" ++ host ++ "/" ++ callPath path

/-- The address of a path on its best host. -/
def HostMap.callAddress (m : HostMap) (schema path : String) : String :=
  Courier.callAddress schema (m.host path) path

/-- An address with more query parameters. -/
def withQueries (address : String) (queries : List (String × String)) :
    Except UrlError String :=
  if queries.isEmpty then .ok address
  else (Url.parse address).map fun u => (u.appendPairs queries).text

/-- The addresses asked for so far. -/
structure AddressBook where
  schema : String
  /-- Host and path, and the address. -/
  known : List ((String × String) × String)
deriving DecidableEq, Inhabited

namespace AddressBook

/-- A book without addresses. -/
def empty (schema : String) : AddressBook := ⟨schema, []⟩

/-- How many addresses there are. -/
def size (b : AddressBook) : Nat := b.known.length

/-- Whether there is no address. -/
def isEmpty (b : AddressBook) : Bool := b.known.isEmpty

/-- The address of a path on a host, and the book that has it. -/
def get (b : AddressBook) (host path : String) : String × AddressBook :=
  let key := (host, callPath path)
  match b.known.lookup key with
  | some address => (address, b)
  | none =>
    let address := callAddress b.schema host path
    (address, { b with known := (key, address) :: b.known })

end AddressBook

end Courier
