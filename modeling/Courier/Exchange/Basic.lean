import Courier.Headers
import Courier.Text.Base64
import Courier.Url.Coding
import Courier.Url.Parser

/-!
# Requests and what comes of them

A request (`Courier.Request`) is complete: it has an address with a host, a legal header
and a body. `Request.to?` makes one from the text of an address. A user named in the address is
taken out of it and put into the header, where it belongs.

What comes of sending a request is an `Outcome`. A reply is read in two parts, and each can
fail by a `Fault`, which is either the end of the time given to the request or a broken
connection:

| outcome | status and header | body |
|---|---|---|
| `Outcome.reply` | read | read |
| `Outcome.cut` | read | a fault |
| `Outcome.failed` | a fault | |
-/

namespace Courier

/-- A request that can be sent. -/
structure Request where
  method : String
  url : Url
  headers : Headers
  body : Bytes
  /-- How long it may take, in milliseconds. -/
  timeout : Nat
deriving DecidableEq, Inhabited

namespace Request

/-- The text that a part of an address stands for. -/
def userPart? (s : String) : Option String := Utf8.decode? (UrlCoding.decode (utf8 s))

/-- The user and password in an address as the value of a header. There is none if neither
is given or the name is not text. -/
def userField? (u : Url) : Option HeaderValue :=
  match userPart? u.username with
  | none => none
  | some name =>
    let password := if u.password = "" then none else userPart? u.password
    if name = "" ∧ password = none then none
    else HeaderValue.ofText? ("Basic " ++ Base64.encode (utf8 (name ++ ":" ++ password.getD "")))

/-- A request to an address, given by its text. There is none if the text is no address or
the address has no host. -/
def to? (method address : String) (timeout : Nat) : Option Request :=
  match Url.parse address with
  | .error _ => none
  | .ok u =>
    if u.hostText?.isNone then none
    else
      match userField? u with
      | none => some ⟨method, u, .empty, [], timeout⟩
      | some v =>
        let u := { u with username := "", password := "" }
        some ⟨method, u, Headers.empty.append .authorization v, [], timeout⟩

/-- A request with one more field, if name and value are legal. -/
def withField? (r : Request) (name : HeaderName) (value : String) : Option Request :=
  (HeaderValue.ofText? value).map fun v => { r with headers := r.headers.append name v }

/-- A request with fields in place of those of the same names. -/
def withHeaders (r : Request) (h : Headers) : Request :=
  let kept := r.headers.fields.filter fun f => !h.contains f.1
  { r with headers := ⟨kept ++ h.fields⟩ }

end Request

/-- A reply that was read to its end. -/
structure Reply where
  status : Nat
  headers : Headers
  body : Bytes
deriving DecidableEq, Inhabited

/-- Why there is no reply, or no end of it. -/
inductive Fault where
  /-- The time given to the request is over. -/
  | timedOut
  /-- The connection could not be made or broke. -/
  | broken (reason : String)
deriving DecidableEq, Inhabited

/-- What a fault is called. -/
def Fault.text : Fault → String
  | .timedOut => "operation timed out"
  | .broken reason => reason

/-- What came of sending a request. -/
inductive Outcome where
  | reply (r : Reply)
  | cut (status : Nat) (headers : Headers) (fault : Fault)
  | failed (fault : Fault)
deriving DecidableEq, Inhabited

/-- An outcome and how many milliseconds it took. -/
structure Exchange where
  outcome : Outcome
  cost : Nat
  /-- What is said of the body, should it turn out that it cannot be decompressed. -/
  corruption : String := ""
deriving DecidableEq, Inhabited

end Courier
