import Courier.Url.Basic

/-!
# Query pairs

The query of an address as a list of pairs, in the coding of forms: pairs are joined by
`&`, a name and its value by `=`, a space is `+`, and all bytes but letters, digits and
`*-._` are written as two digits after a percent sign.

* `Query.decode` – the pairs of a query; it never fails;
* `Query.encodePair` – the coding of one pair;
* `Url.queryPairs`, `Url.appendPairs` – the same for an address.
-/

namespace Courier

namespace Query

/-- The bytes that stand for themselves. -/
def isPlain (b : UInt8) : Bool :=
  let c := Char.ofNat b.toNat
  b < 0x80 && (c.isAlphanum || c == '*' || c == '-' || c == '.' || c == '_')

/-- The coding of one byte. -/
def encodeByte (b : UInt8) : List Char :=
  if isPlain b then [Char.ofNat b.toNat]
  else if b = 0x20 then ['+']
  else '%' :: Hex.pair Hex.upper b

/-- The coding of a text. -/
def encode (s : String) : List Char := (utf8 s).flatMap encodeByte

/-- The coding of one pair. -/
def encodePair (kv : String × String) : List Char := encode kv.1 ++ '=' :: encode kv.2

/-- The text that a coded text stands for. -/
def decodeText (cs : Bytes) : String :=
  Utf8.lossy (UrlCoding.decode (cs.map fun b => if b = 0x2B then 0x20 else b))

/-- The pair that a piece between two `&` stands for: a name and, after the first `=`,
its value. -/
def decodePair (piece : Bytes) : String × String :=
  match piece.span (· ≠ 0x3D) with
  | (name, []) => (decodeText name, "")
  | (name, _ :: value) => (decodeText name, decodeText value)

/-- The pairs of a query. Empty pieces count as nothing. -/
def decode (query : String) : List (String × String) :=
  (((utf8 query).splitOn 0x26).filter (· ≠ [])).map decodePair

end Query

namespace Url

/-- The pairs of the query of an address. -/
def queryPairs (u : Url) : List (String × String) :=
  Query.decode (u.query.getD "")

/-- More pairs at the end of the query. -/
def appendPairs (u : Url) (pairs : List (String × String)) : Url :=
  if pairs = [] then u
  else
    let old := (u.query.getD "").toList
    let new := List.intercalate ['&'] (pairs.map Query.encodePair)
    { u with query := some (String.ofList (if old = [] then new else old ++ '&' :: new)) }

end Url

end Courier
