import Courier.Digest.Sha256

/-!
# Keyed digests

`Courier.hmacSha256` – the keyed digest over SHA-256: a key longer than a block is
replaced by its digest, and the message is hashed inside two masked copies of the key.
-/

namespace Courier

namespace Hmac

/-- A key as one block of 64 bytes. -/
def blockKey (key : Bytes) : Bytes :=
  let k := if key.length ≤ 64 then key else sha256 key
  k ++ List.replicate (64 - k.length) 0

end Hmac

/-- The keyed SHA-256 digest of a message. -/
def hmacSha256 (key message : Bytes) : Bytes :=
  let k := Hmac.blockKey key
  let inner := sha256 (k.map (· ^^^ 0x36) ++ message)
  sha256 (k.map (· ^^^ 0x5c) ++ inner)

end Courier
