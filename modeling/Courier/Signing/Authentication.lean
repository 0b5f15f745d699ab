import Courier.Exchange.Outside
import Courier.Signing.Keyed
import Courier.Signing.Tenant
import Courier.Text.Moment
import Courier.Url.Query

/-!
# Signing a request

A client signs all its requests in one of two ways, with an access key or with the token
of its tenant (`Courier.Authentication`). The signature covers the body as it is sent. If a request
cannot be signed, it keeps what was written before the failure.
-/

namespace Courier

/-- A request signed with an access key. The signed host is that of the address, with its
port, and the signed query its pairs. -/
def Keyed.signRequest (r : Request) (c : Credential) (now : String) :
    Request × Except SigningError Unit :=
  match r.url.hostAndPort? with
  | none => (r, .error .missingHost)
  | some host =>
    let parts : Keyed.Parts := ⟨r.method, host, r.url.pathText, r.url.queryPairs, r.body⟩
    let (h, result) := Keyed.sign r.headers parts c now
    ({ r with headers := h }, result)

/-- How a client signs. -/
inductive Authentication where
  | keyed (c : Credential)
  | tenant (k : TenantKey)
deriving DecidableEq, Inhabited

namespace Authentication

/-- The word for a way of signing. -/
def mode : Authentication → String
  | .keyed _ => "hmac"
  | .tenant _ => "air"

/-- The nonce made from an identifier: its first eight digits. -/
def nonce (id : String) : String := String.ofList (id.toList.take 8)

/-- A request signed at a moment, with an identifier that gives the nonce. -/
def signAt (a : Authentication) (r : Request) (now : Nat) (id : String) :
    Request × Except SigningError Unit :=
  match a with
  | .keyed c => Keyed.signRequest r c (Moment.signed now)
  | .tenant k =>
    let (h, result) := k.sign r.headers r.body (toString now) (nonce id)
    ({ r with headers := h }, result)

/-- A request signed now. -/
def sign {m : Type → Type} [Monad m] [Outside m] (a : Authentication) (r : Request) :
    m (Request × Except SigningError Unit) := do
  let now ← Outside.now
  let id ← Outside.freshId
  return a.signAt r now id

end Authentication

end Courier
