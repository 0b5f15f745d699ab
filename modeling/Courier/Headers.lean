import Courier.Text.Piece
import Courier.Text.Utf8

/-!
# Header fields

The header of a request or reply: a multimap from names to values. What the wire
demands of a name and of a value is **part of the types**, so that no later operation
can produce a header that could not be sent:

| type | holds | rule |
|---|---|---|
| `Courier.HeaderName` | text | a token in lower case, at most 65535 characters |
| `Courier.HeaderValue` | bytes | no control byte other than the tab |

`Courier.Headers` keeps the order of arrival. A name may have several values; the one
that is read (`Headers.get?`) is the first, `Headers.append` adds one, and
`Headers.insert` replaces them all by one.
-/

namespace Courier

/-- The characters of a token. -/
def isTokenChar (c : Char) : Bool :=
  c.isAlphanum || "!#$%&'*+-.^_\x60|~".toList.contains c

/-- A token in lower case that is neither empty nor too long to be a name. -/
def isFieldName (s : String) : Bool :=
  !s.toList.isEmpty && s.toList.length ≤ 65535
    && s.toList.all (fun c => isTokenChar c && !c.isUpper)

/-- The name of a header field, in lower case. -/
structure HeaderName where
  text : String
  legal : isFieldName text = true
deriving DecidableEq

namespace HeaderName

/-- The name that a text spells, in whatever case. -/
def ofText? (s : String) : Option HeaderName :=
  if h : isFieldName (lowercase s) = true then some ⟨lowercase s, h⟩ else none

instance : Inhabited HeaderName := ⟨⟨"x", by decide⟩⟩

def accept : HeaderName := ⟨"accept", by decide⟩
def acceptEncoding : HeaderName := ⟨"accept-encoding", by decide⟩
def authorization : HeaderName := ⟨"authorization", by decide⟩
def contentEncoding : HeaderName := ⟨"content-encoding", by decide⟩
def contentMd5 : HeaderName := ⟨"content-md5", by decide⟩
def contentType : HeaderName := ⟨"content-type", by decide⟩
def host : HeaderName := ⟨"host", by decide⟩
def projectId : HeaderName := ⟨"project-id", by decide⟩
def requestId : HeaderName := ⟨"request-id", by decide⟩
def tenantId : HeaderName := ⟨"tenant-id", by decide⟩
def tenantNonce : HeaderName := ⟨"tenant-nonce", by decide⟩
def tenantSignature : HeaderName := ⟨"tenant-signature", by decide⟩
def tenantTs : HeaderName := ⟨"tenant-ts", by decide⟩
def timeoutMillis : HeaderName := ⟨"timeout-millis", by decide⟩
def xContentSha256 : HeaderName := ⟨"x-content-sha256", by decide⟩
def xDate : HeaderName := ⟨"x-date", by decide⟩
def xSecurityToken : HeaderName := ⟨"x-security-token", by decide⟩

end HeaderName

/-- A byte that a value may hold: any but the controls, and the tab among them. -/
def isValueByte (b : UInt8) : Bool := b == 9 || (32 ≤ b && b != 127)

/-- The value of a header field. -/
structure HeaderValue where
  bytes : Bytes
  legal : bytes.all isValueByte = true
deriving DecidableEq

namespace HeaderValue

/-- The value with these bytes. -/
def ofBytes? (b : Bytes) : Option HeaderValue :=
  if h : b.all isValueByte = true then some ⟨b, h⟩ else none

/-- The value with the bytes of a text. -/
def ofText? (s : String) : Option HeaderValue := ofBytes? (utf8 s)

instance : Inhabited HeaderValue := ⟨⟨[], rfl⟩⟩

/-- The text of a value, ill-formed parts replaced. -/
def lossy (v : HeaderValue) : String := Utf8.lossy v.bytes

/-- The text of a value that holds nothing but visible ASCII, spaces and tabs. -/
def ascii? (v : HeaderValue) : Option String :=
  if v.bytes.all (· < 127) then some (Utf8.lossy v.bytes) else none

end HeaderValue

/-- Header fields in order of arrival. -/
structure Headers where
  fields : List (HeaderName × HeaderValue)
deriving DecidableEq

namespace Headers

/-- No field. -/
def empty : Headers := ⟨[]⟩

instance : Inhabited Headers := ⟨empty⟩

/-- All values of a name, in order. -/
def values (h : Headers) (n : HeaderName) : List HeaderValue :=
  (h.fields.filter (·.1 = n)).map (·.2)

/-- The value that is read: the first. -/
def get? (h : Headers) (n : HeaderName) : Option HeaderValue := (h.values n).head?

/-- Whether a name occurs. -/
def contains (h : Headers) (n : HeaderName) : Bool := h.fields.any (·.1 = n)

/-- One more value for a name. -/
def append (h : Headers) (n : HeaderName) (v : HeaderValue) : Headers :=
  ⟨h.fields ++ [(n, v)]⟩

/-- A value for a name in place of all it had. -/
def insert (h : Headers) (n : HeaderName) (v : HeaderValue) : Headers :=
  ⟨h.fields.filter (·.1 ≠ n) ++ [(n, v)]⟩

/-- A name without its values. -/
def erase (h : Headers) (n : HeaderName) : Headers := ⟨h.fields.filter (·.1 ≠ n)⟩

/-- A value for a name that has none yet. -/
def insertNew (h : Headers) (n : HeaderName) (v : HeaderValue) : Headers :=
  if h.contains n then h else h.insert n v

/-- The names that occur, each once. -/
def names (h : Headers) : List HeaderName := (h.fields.map (·.1)).eraseDups

/-- The text of the value that is read, empty if the name does not occur. -/
def lossy (h : Headers) (n : HeaderName) : String := ((h.get? n).map HeaderValue.lossy).getD ""

@[simp] theorem values_insert_self (h : Headers) (n : HeaderName) (v : HeaderValue) :
    (h.insert n v).values n = [v] := by
  simp [values, insert, List.filter_append, List.filter_filter]

theorem values_insert_of_ne (h : Headers) {n m : HeaderName} (v : HeaderValue) (hm : m ≠ n) :
    (h.insert n v).values m = h.values m := by
  have hn : ¬ n = m := fun e => hm e.symm
  simp only [values, insert, List.filter_append, List.filter_filter]
  congr 1
  simp only [hn, List.filter_cons, List.filter_nil, decide_false, Bool.false_eq_true, if_false,
    List.append_nil]
  apply List.filter_congr
  intro x _
  by_cases hx : x.1 = m
  · simp [hx, hm]
  · simp [hx]

@[simp] theorem get?_insert_self (h : Headers) (n : HeaderName) (v : HeaderValue) :
    (h.insert n v).get? n = some v := by
  simp [get?]

theorem get?_insert_of_ne (h : Headers) {n m : HeaderName} (v : HeaderValue) (hm : m ≠ n) :
    (h.insert n v).get? m = h.get? m := by
  simp [get?, values_insert_of_ne h v hm]

end Headers

end Courier
