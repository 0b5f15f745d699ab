import Courier.Text.Piece
import Courier.Url.Coding
import Courier.Url.Label

/-!
# Hosts

The host of an address is a name, an IPv4 address or an IPv6 address
(`Courier.Host`), and each is written in one way only: names in lower case, IPv4 as
four decimal numbers, IPv6 in brackets with its longest run of zeros left out.

* `Host.ofText?` – the host that a text spells, for the schemes that have a server;
* `Host.opaque?` – the same for all other schemes, where a name is not interpreted;
* `Host.text` – the written form.

A name whose last label is a number **must** be an IPv4 address, whose numbers may be
written in decimal, octal or hexadecimal and may be fewer than four, the last one then
filling the rest (`Host.ipv4?`). Names beyond ASCII are refused, unless they are written in
ASCII (`Courier.Label`).
-/

namespace Courier

/-- Why a text is no address. -/
inductive UrlError where
  | relativeWithoutBase
  | emptyHost
  | invalidPort
  | invalidIpv4
  | invalidIpv6
  /-- A name that cannot be the name of a host. -/
  | invalidName
  /-- A character that cannot stand in an uninterpreted host. -/
  | invalidCharacter
deriving DecidableEq, Repr

/-- The message of an error. -/
def UrlError.message : UrlError → String
  | .relativeWithoutBase => "relative URL without a base"
  | .emptyHost => "empty host"
  | .invalidPort => "invalid port number"
  | .invalidIpv4 => "invalid IPv4 address"
  | .invalidIpv6 => "invalid IPv6 address"
  | .invalidName => "invalid international domain name"
  | .invalidCharacter => "invalid domain character"

/-- The host of an address. -/
inductive Host where
  | name (s : String)
  /-- An address of 32 bits. -/
  | ipv4 (address : Nat)
  /-- Eight pieces of 16 bits. -/
  | ipv6 (pieces : List Nat)
deriving DecidableEq, Inhabited

namespace Host

/-! ### Numbers -/

/-- The value of digits to a base, if all of them are digits to this base. -/
def digits? (base : Nat) (cs : List Char) : Option Nat :=
  cs.foldl (fun acc c => do
    let n ← acc
    let d ← Hex.value? c.toNat
    if d < base then some (n * base + d) else none) (some 0)

/-- A decimal number in digits. -/
def decimal (n : Nat) : List Char := Nat.toDigits 10 n

/-! ### IPv4 -/

/-- A number of an IPv4 address: hexadecimal after `0x`, octal after another `0`, else
decimal. -/
def ipv4Number? : List Char → Option Nat
  | [] => none
  | '0' :: 'x' :: r => digits? 16 r
  | '0' :: 'X' :: r => digits? 16 r
  | '0' :: d :: r => digits? 8 (d :: r)
  | cs => digits? 10 cs

/-- The labels of a name, without the empty one after a final dot. -/
def labels (cs : List Char) : List (List Char) :=
  let parts := cs.splitOn '.'
  if parts.length > 1 ∧ parts.getLast? = some [] then parts.dropLast else parts

/-- Whether the last label of a name makes it an IPv4 address. -/
def endsInNumber (cs : List Char) : Bool :=
  match (labels cs).getLast? with
  | none => false
  | some last => (!last.isEmpty && last.all Char.isDigit) || (ipv4Number? last).isSome

/-- The IPv4 address that a name spells. The last number fills all bytes that the
numbers before it leave. -/
def ipv4? (cs : List Char) : Option Nat := do
  let numbers ← (labels cs).mapM ipv4Number?
  let front := numbers.dropLast
  let last ← numbers.getLast?
  -- the last number must fit the bytes that the others leave
  if numbers.length > 4 ∨ front.any (255 < ·) ∨ Nat.pow 256 (4 - front.length) ≤ last then none
  else some (front.zipIdx.foldl (fun acc (n, i) => acc + n * Nat.pow 256 (3 - i)) last)

/-- An IPv4 address as four decimal numbers. -/
def ipv4Text (a : Nat) : List Char :=
  decimal (a / Nat.pow 2 24 % 256) ++ '.' :: decimal (a / Nat.pow 2 16 % 256) ++ '.' ::
    decimal (a / Nat.pow 2 8 % 256) ++ '.' :: decimal (a % 256)

/-! ### IPv6 -/

/-- A number of at most three decimal digits without a leading zero and below 256. -/
def byte? (cs : List Char) : Option Nat :=
  if cs.isEmpty ∨ (cs.length > 1 ∧ cs.head? = some '0') then none
  else match digits? 10 cs with
  | some n => if n ≤ 255 then some n else none
  | none => none

/-- Four bytes in decimal, as the last two pieces of an IPv6 address may be written. -/
def embedded? (cs : List Char) : Option (List Nat) :=
  match (cs.splitOn '.').mapM byte? with
  | some [a, b, c, d] => some [a * 256 + b, c * 256 + d]
  | _ => none

/-- A piece of one to four hexadecimal digits. -/
def piece? (cs : List Char) : Option Nat :=
  if cs.isEmpty ∨ 4 < cs.length then none else digits? 16 cs

/-- Pieces between colons. The last may be four decimal bytes if `mayEmbed`. -/
def pieces? (mayEmbed : Bool) (cs : List Char) : Option (List Nat) :=
  if cs.isEmpty then some []
  else
    let parts := cs.splitOn ':'
    do
      let front ← parts.dropLast.mapM piece?
      let last ← parts.getLast?
      if mayEmbed ∧ last.contains '.' then
        let e ← embedded? last
        some (front ++ e)
      else
        let p ← piece? last
        some (front ++ [p])

/-- A text cut at the first double colon. -/
def splitDouble : List Char → Option (List Char × List Char)
  | ':' :: ':' :: r => some ([], r)
  | c :: r => (splitDouble r).map fun (a, b) => (c :: a, b)
  | [] => none

/-- The IPv6 address that a text spells: eight pieces, or fewer with one double colon
in place of one or more pieces that are zero. -/
def ipv6? (cs : List Char) : Option (List Nat) :=
  match splitDouble cs with
  | none => do
    let ps ← pieces? true cs
    if ps.length = 8 then some ps else none
  | some (before, after) => do
    let front ← pieces? false before
    let back ← pieces? true after
    let n := front.length + back.length
    if n ≤ 7 then some (front ++ List.replicate (8 - n) 0 ++ back) else none

/-- The longest run of zeros among pieces: where it starts and how long it is. Of
several the first counts. -/
def zeroRun (ps : List Nat) : Nat × Nat :=
  let runs := ps.zipIdx.map fun (_, i) => (i, ((ps.drop i).takeWhile (· = 0)).length)
  runs.foldl (fun best r => if best.2 < r.2 then r else best) (0, 0)

/-- Hexadecimal pieces with colons between them. -/
def piecesText (ps : List Nat) : List Char :=
  List.intercalate [':'] (ps.map (Nat.toDigits 16))

/-- An IPv6 address. The first of its longest runs of two or more zeros is left out. -/
def ipv6Text (ps : List Nat) : List Char :=
  let (start, length) := zeroRun ps
  if length < 2 then piecesText ps
  else piecesText (ps.take start) ++ ':' :: ':' :: piecesText (ps.drop (start + length))

/-! ### Names -/

/-- The characters that no name may hold. -/
def isForbidden (c : Char) : Bool :=
  c.toNat ≤ 0x20 || c.toNat == 0x7F || "%#/:<>?@[\\]^|".toList.contains c

/-- The characters that no uninterpreted host may hold. -/
def isForbiddenOpaque (c : Char) : Bool :=
  "\x00\t\n\r #/:<>?@[\\]^|".toList.contains c

/-- What stands between brackets, if the text begins with one. -/
def bracketed? : List Char → Option (Except UrlError (List Char))
  | '[' :: r =>
    some (if r.getLast? = some ']' then .ok r.dropLast else .error .invalidIpv6)
  | _ => none

/-- The host in brackets. -/
def ofBrackets (cs : List Char) : Except UrlError Host :=
  match ipv6? cs with
  | some ps => .ok (.ipv6 ps)
  | none => .error .invalidIpv6

/-- The host that a text spells: in brackets an IPv6 address, else – after decoding, in
lower case – an IPv4 address or a name. -/
def ofText? (cs : List Char) : Except UrlError Host :=
  match bracketed? cs with
  | some inner => inner.bind ofBrackets
  | none =>
    match Utf8.decode? (UrlCoding.decode (utf8 (String.ofList cs))) with
    | none => .error .invalidName
    | some s =>
      let name := s.toList.map Char.toLower
      if name.any fun c => isForbidden c || 0x7F < c.toNat then .error .invalidName
      else if !Label.areValid (name.splitOn '.') then .error .invalidName
      else if name.isEmpty then .error .emptyHost
      else if endsInNumber name then
        match ipv4? name with
        | some a => .ok (.ipv4 a)
        | none => .error .invalidIpv4
      else .ok (.name (String.ofList name))

/-- The host that a text spells where names are not interpreted. -/
def opaque? (cs : List Char) : Except UrlError Host :=
  match bracketed? cs with
  | some inner => inner.bind ofBrackets
  | none =>
    if cs.any isForbiddenOpaque then .error .invalidCharacter
    else .ok (.name (String.ofList (UrlCoding.encode UrlCoding.control cs)))

/-- The written form of a host. -/
def text : Host → String
  | .name s => s
  | .ipv4 a => String.ofList (ipv4Text a)
  | .ipv6 ps => String.ofList ('[' :: ipv6Text ps ++ [']'])

end Host

end Courier
