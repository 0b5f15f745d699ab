import Courier.Text.Hex

/-!
# Percent coding inside addresses

An address writes a byte as a percent sign and two upper-case digits if the byte stands
outside ASCII, is a control, or is **reserved** at the place where it stands. The places
differ in what they reserve:

| set | place |
|---|---|
| `UrlCoding.control` | an opaque path, an opaque host |
| `UrlCoding.fragment` | after `#` |
| `UrlCoding.path` | a path segment |
| `UrlCoding.query`, `UrlCoding.specialQuery` | after `?` |
| `UrlCoding.userinfo` | user name and password |

Nothing is decoded on the way in: a percent sign stays as it is, so an address that is
coded already does not change.
-/

namespace Courier.UrlCoding

/-- A byte that is coded everywhere: a control, or beyond ASCII. -/
def control (b : UInt8) : Bool := b < 0x20 || 0x7E < b

/-- Whether a byte is that of one of some ASCII characters. -/
def isOneOf (cs : String) (b : UInt8) : Bool := cs.toList.contains (Char.ofNat b.toNat)

def fragment (b : UInt8) : Bool := control b || isOneOf " \"<>\x60" b

def path (b : UInt8) : Bool := fragment b || isOneOf "#?\x7b\x7d" b

def userinfo (b : UInt8) : Bool := path b || isOneOf "/:;=@[\\]^|" b

def query (b : UInt8) : Bool := control b || isOneOf " \"#<>" b

def specialQuery (b : UInt8) : Bool := query b || b == 0x27

/-- Bytes with those of a set coded. -/
def encodeBytes (set : UInt8 → Bool) (b : Bytes) : List Char :=
  b.flatMap fun x =>
    if set x then '%' :: Hex.pair Hex.upper x else [Char.ofNat x.toNat]

/-- A text with the characters of a set coded. Every set holds the bytes beyond ASCII,
so what is left as it is has one byte. -/
def encode (set : UInt8 → Bool) (cs : List Char) : List Char :=
  cs.flatMap fun c => encodeBytes set (String.utf8EncodeChar c)

/-- The bytes that a coded byte string stands for; a percent sign without two digits
stands for itself. -/
def decode : Bytes → Bytes
  | [] => []
  | b :: rest =>
    match rest with
    | [] => [b]
    | [x] => [b, x]
    | x :: y :: tail =>
      if b = 37 then
        match Hex.value? x.toNat, Hex.value? y.toNat with
        | some h, some l => UInt8.ofNat (16 * h + l) :: decode tail
        | _, _ => b :: decode (x :: y :: tail)
      else b :: decode (x :: y :: tail)

end Courier.UrlCoding
