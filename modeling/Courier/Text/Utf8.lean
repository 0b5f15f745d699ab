/-!
# Byte strings and their text

Bodies, header values and digests are byte strings; names, addresses and messages
are text. This file holds the two directions between them:

* `Courier.utf8` – the bytes of a text;
* `Courier.Utf8.scalars` – the reading of arbitrary bytes, one entry for each
  scalar value and one `none` for each **maximal ill-formed part**, that is the
  longest run that starts a well-formed sequence and does not finish it;
* `Courier.Utf8.decode?` – strict: text exactly if nothing is ill-formed;
* `Courier.Utf8.lossy` – total: every ill-formed part reads as U+FFFD.

The table of first bytes is `Courier.Utf8.lead?`. It admits no overlong form, no
surrogate and nothing above U+10FFFF, because the bounds it puts on the second
byte exclude them.
-/

namespace Courier

/-- A byte string. -/
abbrev Bytes := List UInt8

/-- The UTF-8 bytes of a text. -/
def utf8 (s : String) : Bytes :=
  s.toList.flatMap String.utf8EncodeChar

namespace Utf8

/-- What a first byte announces. -/
structure Lead where
  /-- How many continuation bytes follow. -/
  more : Nat
  /-- The bits of the scalar value that the first byte holds. -/
  bits : Nat
  /-- Least second byte. -/
  low : UInt8
  /-- Greatest second byte. -/
  high : UInt8

/-- The first bytes of multi-byte sequences. The bounds on the second byte keep out
overlong forms (`E0`, `F0`), surrogates (`ED`) and values above U+10FFFF (`F4`). -/
def lead? (b : UInt8) : Option Lead :=
  let n := b.toNat
  if 0xC2 ≤ n ∧ n ≤ 0xDF then some ⟨1, n - 0xC0, 0x80, 0xBF⟩
  else if n = 0xE0 then some ⟨2, 0, 0xA0, 0xBF⟩
  else if n = 0xED then some ⟨2, 0xD, 0x80, 0x9F⟩
  else if 0xE1 ≤ n ∧ n ≤ 0xEF then some ⟨2, n - 0xE0, 0x80, 0xBF⟩
  else if n = 0xF0 then some ⟨3, 0, 0x90, 0xBF⟩
  else if 0xF1 ≤ n ∧ n ≤ 0xF3 then some ⟨3, n - 0xF0, 0x80, 0xBF⟩
  else if n = 0xF4 then some ⟨3, 4, 0x80, 0x8F⟩
  else none

/-- Whether a byte continues a sequence. -/
def isContinuation (b : UInt8) : Bool := 0x80 ≤ b && b ≤ 0xBF

/-- The six payload bits of a continuation byte, below the bits read so far. -/
def extend (bits : Nat) (b : UInt8) : Nat := bits * 64 + (b.toNat - 0x80)

/-- The scalar values of a byte string, `none` for each maximal ill-formed part. -/
def scalars : Bytes → List (Option Char)
  | [] => []
  | b0 :: r0 =>
    if b0 < 0x80 then some (Char.ofNat b0.toNat) :: scalars r0
    else match lead? b0 with
    | none => none :: scalars r0
    | some l =>
      match r0 with
      | [] => [none]
      | b1 :: r1 =>
        if l.low ≤ b1 && b1 ≤ l.high then
          if l.more = 1 then some (Char.ofNat (extend l.bits b1)) :: scalars r1
          else match r1 with
          | [] => [none]
          | b2 :: r2 =>
            if isContinuation b2 then
              if l.more = 2 then
                some (Char.ofNat (extend (extend l.bits b1) b2)) :: scalars r2
              else match r2 with
              | [] => [none]
              | b3 :: r3 =>
                if isContinuation b3 then
                  some (Char.ofNat (extend (extend (extend l.bits b1) b2) b3)) :: scalars r3
                else none :: scalars (b3 :: r3)
            else none :: scalars (b2 :: r2)
        else none :: scalars (b1 :: r1)

/-- The text of well-formed bytes. -/
def decode? (b : Bytes) : Option String :=
  (scalars b).mapM id |>.map String.ofList

/-- The text of any bytes; each maximal ill-formed part reads as U+FFFD. -/
def lossy (b : Bytes) : String :=
  String.ofList ((scalars b).map (·.getD '\uFFFD'))

end Utf8

end Courier
