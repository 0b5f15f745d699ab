import Courier.Headers
import Courier.Percent
import Courier.Text.Blank

/-!
# The canonical text of a request

A signature covers one text, made of the six things that matter about a request
(`Courier.Canonical.Request`): method, path, query, the signed header fields, and the
digest of the body. Two requests that differ in nothing that matters have the same text:

* the path is decoded and coded again segment by segment (`Canonical.path`);
* the query is sorted by key, pairs that share a key keep their order
  (`Canonical.query`);
* of the header, only the **signable** names count (`Canonical.isSignable`), in
  ascending order, each with its first value – decoded, without white space at its
  ends, and for `host` without a default port (`Canonical.fieldValue`).

`Canonical.Request.text` joins the parts by line feeds.
-/

namespace Courier.Canonical

/-- A path with every segment decoded and coded again. -/
def path (p : String) : String :=
  "/".intercalate ((splitAll '/' p).map fun segment =>
    Percent.encode (Percent.decode (utf8 segment)))

/-- Query pairs in ascending order of their keys; pairs that share a key keep their
order. -/
def sortPairs (pairs : List (String × String)) : List (String × String) :=
  pairs.mergeSort fun a b => a.1 ≤ b.1

/-- The coding of one query pair. -/
def pair (kv : String × String) : String :=
  Percent.encode (utf8 kv.1) ++ "=" ++ Percent.encode (utf8 kv.2)

/-- Query pairs sorted and coded. -/
def query (pairs : List (String × String)) : String :=
  "&".intercalate ((sortPairs pairs).map pair)

/-- The names that a signature covers. -/
def isSignable (n : HeaderName) : Bool :=
  n = .contentType || n = .contentMd5 || n = .host || startsWith n.text "x-"

/-- A host without the port `80` or `443`, if that is all that follows its first
colon. -/
def withoutDefaultPort (host : String) : String :=
  match splitAtFirst? ':' host with
  | some (name, port) => if port = "80" ∨ port = "443" then name else host
  | none => host

/-- The value of a field as it is signed: its text, without white space at its ends,
and for `host` without a default port. -/
def fieldValue (n : HeaderName) (text : String) : String :=
  if n = .host then withoutDefaultPort (trim text) else trim text

/-- The signable names of a header, each once, in ascending order. -/
def signedNames (h : Headers) : List HeaderName :=
  (h.names.filter isSignable).mergeSort fun a b => a.text ≤ b.text

/-- The signed fields of a header with their values. -/
def signedFields (h : Headers) : List (HeaderName × String) :=
  (signedNames h).map fun n => (n, fieldValue n (h.lossy n))

/-- The lines of the signed fields, each ended by a line feed. -/
def fieldLines (fields : List (HeaderName × String)) : String :=
  "".intercalate (fields.map fun f => f.1.text ++ ":" ++ f.2 ++ "\n")

/-- The names of the signed fields, joined by semicolons. -/
def fieldNames (fields : List (HeaderName × String)) : String :=
  ";".intercalate (fields.map fun f => f.1.text)

/-- What a signature covers. -/
structure Request where
  method : String
  path : String
  query : List (String × String)
  fields : List (HeaderName × String)
  bodyDigest : String

/-- **The canonical text**: method, path, query, field lines, field names and the digest
of the body, one line each. An empty path counts as the root. -/
def Request.text (r : Request) : String :=
  "\n".intercalate [r.method, Canonical.path (if r.path = "" then "/" else r.path),
    Canonical.query r.query, fieldLines r.fields, fieldNames r.fields, r.bodyDigest]

end Courier.Canonical
