import Courier.Number.Binary64

/-!
# JSON values

A number is held in one of three forms, because they are written differently: natural
numbers, negative integers, and floating point numbers. The members of an object that was read
are in ascending order of their names, each name once (`Json.insertMember`). An object that is
only written may have them in the order in which they are to be written.
-/

namespace Courier

/-- A number of a JSON text. -/
inductive Json.Number where
  | natural (n : Nat)
  /-- The negative of a natural number. -/
  | negative (n : Nat)
  | float (x : Binary64)
deriving DecidableEq, Inhabited

/-- A JSON value. -/
inductive Json where
  | null
  | bool (b : Bool)
  | number (n : Json.Number)
  | string (s : String)
  | array (items : List Json)
  | object (members : List (String × Json))
deriving Inhabited

namespace Json

/-- A member put in its place among members in ascending order; it replaces a member of
the same name. -/
def insertMember (name : String) (value : Json) :
    List (String × Json) → List (String × Json)
  | [] => [(name, value)]
  | (n, v) :: rest =>
    if name < n then (name, value) :: (n, v) :: rest
    else if n < name then (n, v) :: insertMember name value rest
    else (name, value) :: rest

/-- The object with these members; the last of several of one name counts. -/
def ofMembers (members : List (String × Json)) : Json :=
  .object (members.foldl (fun acc m => insertMember m.1 m.2 acc) [])

/-- The value of a member of an object. -/
def member? (j : Json) (name : String) : Option Json :=
  match j with
  | .object members => members.lookup name
  | _ => none

/-- A natural number. -/
def nat (n : Nat) : Json := .number (.natural n)

/-- The floating point number that a JSON number stands for. -/
def Number.toBinary64 : Number → Binary64
  | .natural n => Binary64.ofNat n
  | .negative n => .ofFloat (-(Float.ofNat n))
  | .float x => x

end Json

end Courier
