import Courier.Digest.Hmac
import Courier.Signing.Canonical
import Courier.Signing.Credential
import Courier.Signing.Error

/-!
# Signing with an access key

A signature is made in three steps:

1. `Keyed.prepare` fills the header – a default content type, the date, the digest of
   the body, a default host – so that whatever is signed is also sent;
2. `Keyed.authorization` computes the canonical text of the request, the text to sign
   (algorithm, date, scope, digest of the canonical text), the key derived from the
   secret for the scope, and from these the value of `authorization`;
3. `Keyed.sign` writes that value, and after it the session token if there is one.

`Keyed.sign` returns the header **also when it fails**: what was written before the
failure stays.
-/

namespace Courier.Keyed

/-- The name of the signing algorithm. -/
def algorithm : String := "HMAC-SHA256"

/-- The content type of a request that names none. -/
def defaultContentType : HeaderValue :=
  ⟨utf8 "application/x-www-form-urlencoded; charset=utf-8", by decide⟩

/-- The parts of a request that are signed besides its header. -/
structure Parts where
  method : String
  host : String
  path : String
  query : List (String × String)
  body : Bytes

/-- Whether a name has a first value that is not empty. -/
def isFilled (h : Headers) (n : HeaderName) : Bool :=
  match h.get? n with
  | some v => !v.bytes.isEmpty
  | none => false

/-- The value of a timestamp or digest, which are letters and digits and so can always
stand in a header. -/
def plainValue (s : String) : HeaderValue := (HeaderValue.ofText? s).getD default

/-- The header before signing, apart from the host: a default content type, the date
`now` if there is none, and the digest of the body. -/
def withDefaults (h : Headers) (now bodyDigest : String) : Headers :=
  let h1 := if isFilled h .contentType then h else h.insert .contentType defaultContentType
  let h2 := if h1.contains .xDate then h1 else h1.insert .xDate (plainValue now)
  h2.insert .xContentSha256 (plainValue bodyDigest)

/-- The header before signing. A host that is already there is kept. -/
def prepare (h : Headers) (now host bodyDigest : String) : Headers × Except SigningError Unit :=
  let filled := withDefaults h now bodyDigest
  if isFilled filled .host then (filled, .ok ()) else filled.write .host host

/-- Where a signature is valid. -/
def scope (date : String) (c : Credential) : String :=
  date ++ "/" ++ c.region ++ "/" ++ c.service ++ "/request"

/-- The key for a scope: the secret, keyed in turn by date, region, service and the word
`request`. -/
def signingKey (secret date region service : String) : Bytes :=
  [region, service, "request"].foldl (fun key part => hmacSha256 key (utf8 part))
    (hmacSha256 (utf8 secret) (utf8 date))

/-- The text to sign. -/
def textToSign (timestamp scope canonicalText : String) : String :=
  "\n".intercalate [algorithm, timestamp, scope, sha256Hex (utf8 canonicalText)]

/-- The date of a timestamp: its first eight bytes. -/
def dateOf? (timestamp : String) : Option String := takeBytes? 8 timestamp

/-- The canonical request of a prepared header. -/
def canonicalRequest (h : Headers) (p : Parts) (bodyDigest : String) : Canonical.Request :=
  { method := p.method, path := p.path, query := p.query,
    fields := Canonical.signedFields h, bodyDigest := bodyDigest }

/-- The signature over a canonical request. -/
def signature (r : Canonical.Request) (timestamp date : String) (c : Credential) : String :=
  Hex.ofBytes (hmacSha256 (signingKey c.secretKey date c.region c.service)
    (utf8 (textToSign timestamp (scope date c) r.text)))

/-- The value of `authorization` for a canonical request. -/
def authorization (r : Canonical.Request) (timestamp date : String) (c : Credential) : String :=
  algorithm ++ " Credential=" ++ c.accessKey ++ "/" ++ scope date c
    ++ ", SignedHeaders=" ++ Canonical.fieldNames r.fields
    ++ ", Signature=" ++ signature r timestamp date c

/-- The signature written into a prepared header, and after it the session token. -/
def finish (h : Headers) (p : Parts) (bodyDigest : String) (c : Credential) :
    Headers × Except SigningError Unit :=
  let timestamp := h.lossy .xDate
  match dateOf? timestamp with
  | none => (h, .error .badTimestamp)
  | some date =>
    match h.write .authorization
        (authorization (canonicalRequest h p bodyDigest) timestamp date c) with
    | (h, .error e) => (h, .error e)
    | (h, .ok ()) =>
      -- the token is not signed: it is written after the signature
      match c.sessionToken with
      | none => (h, .ok ())
      | some token => h.write .xSecurityToken token

/-- **Signing.** The header with everything signing writes; on an error, with what was
written before. `now` is the timestamp for a request without a date. -/
def sign (h : Headers) (p : Parts) (c : Credential) (now : String) :
    Headers × Except SigningError Unit :=
  let bodyDigest := sha256Hex p.body
  match prepare h now p.host bodyDigest with
  | (h, .error e) => (h, .error e)
  | (h, .ok ()) => finish h p bodyDigest c

end Courier.Keyed
