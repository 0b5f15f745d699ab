import Courier.Digest.Sha256
import Courier.Signing.Credential
import Courier.Signing.Error

/-!
# Signing with a tenant's token

The signature is the digest of token, body, tenant, time and nonce, in this order and
without separators (`TenantKey.signature`). `TenantKey.sign` writes time, nonce and
signature in turn and stops at the first that cannot stand in a header.
-/

namespace Courier.TenantKey

/-- The signature over a body at a time, with a nonce. -/
def signature (k : TenantKey) (body : Bytes) (time nonce : String) : String :=
  sha256Hex (utf8 k.token ++ body ++ utf8 k.tenantId ++ utf8 time ++ utf8 nonce)

/-- Fields written in turn, up to the first that cannot be. -/
def writeAll (h : Headers) : List (HeaderName × String) → Headers × Except SigningError Unit
  | [] => (h, .ok ())
  | (n, s) :: rest =>
    match h.write n s with
    | (h, .ok ()) => writeAll h rest
    | (h, .error e) => (h, .error e)

/-- The header with time, nonce and signature. -/
def sign (k : TenantKey) (h : Headers) (body : Bytes) (time nonce : String) :
    Headers × Except SigningError Unit :=
  writeAll h [(.tenantTs, time), (.tenantNonce, nonce),
    (.tenantSignature, k.signature body time nonce)]

end Courier.TenantKey
