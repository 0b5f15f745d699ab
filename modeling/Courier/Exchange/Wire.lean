import Courier.Exchange.Basic
import Courier.Text.Blank

/-!
# Requests and replies on the wire

A request is sent as lines of text and a body (`Request.wire`). It asks for the connection
to be closed after the reply, so that a connection carries **one exchange only**.

The reply arrives in pieces. What has arrived so far, together with whether more can come
(`Wire.Connection`), settles the outcome or leaves it open (`Wire.outcome?`). Where the body
ends is said by the header (`Wire.Extent`):

| the header says | the body ends |
|---|---|
| a status without a body | at once |
| `transfer-encoding: chunked` | with a chunk of length zero |
| `content-length` | after so many bytes |
| none of these | when the connection is closed |

Lines end with a line feed, before which a carriage return may stand.
-/

namespace Courier

/-! ### Requests -/

/-- A line and the sign of its end. -/
def wireLine (b : Bytes) : Bytes := b ++ [13, 10]

/-- What is asked for: the path and the query of an address. -/
def Url.wireTarget (u : Url) : String :=
  (if u.pathText = "" then "/" else u.pathText) ++
    (match u.query with
    | some q => "?" ++ q
    | none => "")

/-- The fields of a request that follow from its address and its body. Those of its header
come first. -/
def Request.wireFields (r : Request) : List (Bytes × Bytes) :=
  let given (name : HeaderName) (value : String) : List (Bytes × Bytes) :=
    if r.headers.contains name then [] else [(utf8 name.text, utf8 value)]
  r.headers.fields.map (fun f => (utf8 f.1.text, f.2.bytes))
    ++ given .accept "*/*"
    ++ given .host (r.url.hostAndPort?.getD "")
    ++ (if r.body.isEmpty then [] else [(utf8 "content-length", utf8 (toString r.body.length))])
    ++ [(utf8 "connection", utf8 "close")]

/-- **The bytes of a request.** -/
def Request.wire (r : Request) : Bytes :=
  wireLine (utf8 (r.method ++ " " ++ r.url.wireTarget ++ " HTTP/1.1"))
    ++ r.wireFields.flatMap (fun f => wireLine (f.1 ++ utf8 ": " ++ f.2))
    ++ wireLine [] ++ r.body

namespace Wire

/-! ### Lines -/

/-- The first line of what has arrived, without its end, and what follows. There is none if
the line has not ended. -/
def line? : Bytes → Option (Bytes × Bytes)
  | [] => none
  | b :: r =>
    if b = 10 then some ([], r)
    else (line? r).map fun s => (if s.1.isEmpty ∧ b = 13 then [] else b :: s.1, s.2)

theorem length_of_line? {b l r : Bytes} (h : line? b = some (l, r)) : r.length < b.length := by
  induction b generalizing l with
  | nil => simp [line?] at h
  | cons x b ih =>
    unfold line? at h
    split at h
    · simp only [Option.some.injEq, Prod.mk.injEq] at h
      simp [← h.2]
    · obtain ⟨⟨l', r'⟩, hs, he⟩ := Option.map_eq_some_iff.1 h
      simp only [Prod.mk.injEq] at he
      have := ih (he.2 ▸ hs)
      simp only [List.length_cons]
      omega

/-- The lines before the first empty one, and what follows that. -/
def lines? (b : Bytes) : Option (List Bytes × Bytes) :=
  match _ : line? b with
  | none => none
  | some ([], r) => some ([], r)
  | some (l, r) => (lines? r).map fun s => (l :: s.1, s.2)
termination_by b.length
decreasing_by exact length_of_line? ‹_›

theorem length_of_lines? {b : Bytes} {ls : List Bytes} {r : Bytes} (h : lines? b = some (ls, r)) :
    r.length < b.length := by
  fun_induction lines? b generalizing ls with
  | case1 b _ => simp at h
  | case2 b r' hb =>
    simp only [Option.some.injEq, Prod.mk.injEq] at h
    exact h.2 ▸ length_of_line? hb
  | case3 b l r' _ hb ih =>
    obtain ⟨⟨ls', s⟩, hs, he⟩ := Option.map_eq_some_iff.1 h
    simp only [Prod.mk.injEq] at he
    have := ih (he.2 ▸ hs)
    have := length_of_line? hb
    omega

/-! ### The head of a reply -/

/-- White space within a line. -/
def isLineSpace (b : UInt8) : Bool := b == 32 || b == 9

/-- Bytes without the white space at their ends. -/
def trimmed (b : Bytes) : Bytes :=
  ((b.dropWhile isLineSpace).reverse.dropWhile isLineSpace).reverse

/-- A number in digits to a base. -/
def number? (base : Nat) (b : Bytes) : Option Nat :=
  if b.isEmpty then none else Host.digits? base (b.map fun x => Char.ofNat x.toNat)

/-- The status that the first line of a reply states. -/
def status? (l : Bytes) : Option Nat :=
  if (utf8 "HTTP/1.").isPrefixOf l then
    let rest := (l.drop 8)
    match rest.take 1, number? 10 ((rest.drop 1).take 3), (rest.drop 4).take 1 with
    | [32], some n, [] => if 100 ≤ n then some n else none
    | [32], some n, [32] => if 100 ≤ n then some n else none
    | _, _, _ => none
  else none

/-- The field that a line states. -/
def field? (l : Bytes) : Option (HeaderName × HeaderValue) :=
  match l.span (· ≠ 58) with
  | (_, []) => none
  | (name, _ :: value) => do
    let n ← HeaderName.ofText? (Utf8.lossy name)
    let v ← HeaderValue.ofBytes? (trimmed value)
    return (n, v)

/-- The header that lines state. -/
def headers? (ls : List Bytes) : Option Headers := (ls.mapM field?).map Headers.mk

/-- Where a body ends. -/
inductive Extent where
  | length (n : Nat)
  | chunked
  | untilClosed
deriving DecidableEq, Inhabited

def transferEncoding : HeaderName := ⟨"transfer-encoding", by decide⟩
def contentLength : HeaderName := ⟨"content-length", by decide⟩

/-- Where the body of a reply ends, `none` if its header makes no sense. -/
def extent? (status : Nat) (h : Headers) : Option Extent :=
  if status = 204 ∨ status = 304 then some (.length 0)
  else if lowercase (trim (h.lossy transferEncoding)) = "chunked" then some .chunked
  else
    match (h.values contentLength).eraseDups with
    | [] => some .untilClosed
    | [v] => (number? 10 v.bytes).map .length
    | _ => none

/-! ### The body of a reply -/

/-- What has arrived of something that has an end. -/
inductive Arrived (α : Type) where
  | whole (a : α)
  | unfinished
  | malformed
deriving DecidableEq, Inhabited

/-- What has arrived with a function applied to it. -/
def Arrived.map (f : α → β) : Arrived α → Arrived β
  | .whole a => .whole (f a)
  | .unfinished => .unfinished
  | .malformed => .malformed

/-- The length that the first line of a chunk states, before any semicolon. -/
def chunkLength? (l : Bytes) : Option Nat := number? 16 (trimmed (l.takeWhile (· ≠ 59)))

/-- A body in chunks, each a line with its length, so many bytes, and the end of a line; the
last one is empty and is followed by lines that are not read. -/
def chunks (b : Bytes) : Arrived Bytes :=
  match _ : line? b with
  | none => .unfinished
  | some (l, r) =>
    match chunkLength? l with
    | none => .malformed
    | some 0 => if (lines? r).isSome then .whole [] else .unfinished
    | some n =>
      if r.length < n + 2 then .unfinished
      else if (r.drop n).take 2 = [13, 10] then
        (chunks (r.drop (n + 2))).map (r.take n ++ ·)
      else .malformed
termination_by b.length
decreasing_by
  have := length_of_line? ‹_›
  simp only [List.length_drop]
  omega

/-- Whether more can arrive. -/
inductive Connection where
  | lasting
  | closed
  /-- The time given to the request is over. -/
  | expired
deriving DecidableEq, Inhabited

/-- A body of a given extent. -/
def body (c : Connection) (b : Bytes) : Extent → Arrived Bytes
  | .length n => if b.length < n then .unfinished else .whole (b.take n)
  | .chunked => chunks b
  | .untilClosed => if c = .closed then .whole b else .unfinished

/-! ### Outcomes -/

/-- Why nothing more arrives, `none` if more can come. -/
def Connection.fault? : Connection → Option Fault
  | .lasting => none
  | .closed => some (.broken "connection closed before message completed")
  | .expired => some .timedOut

/-- A reply that makes no sense. -/
def nonsense : Fault := .broken "invalid HTTP reply"

/-- **The outcome of a request, as soon as it is settled.** Replies that announce another
one are passed over. -/
def outcome? (c : Connection) (b : Bytes) : Option Outcome :=
  match _ : line? b with
  | none => c.fault?.map .failed
  | some (l, r) =>
    match status? l with
    | none => some (.failed nonsense)
    | some status =>
      match _ : lines? r with
      | none => c.fault?.map .failed
      | some (ls, rest) =>
        -- the reply proper is still to come
        if status < 200 then outcome? c rest
        else
          match headers? ls with
          | none => some (.failed nonsense)
          | some fields =>
            match extent? status fields with
            | none => some (.failed nonsense)
            | some e =>
              match body c rest e with
              | .whole content => some (.reply ⟨status, fields, content⟩)
              | .unfinished => c.fault?.map (.cut status fields)
              | .malformed => some (.cut status fields nonsense)
termination_by b.length
decreasing_by
  have := length_of_line? ‹_›
  have := length_of_lines? ‹_›
  omega

end Wire

end Courier
