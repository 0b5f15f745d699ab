import Courier.Text.Utf8

/-!
# Bytes read bit by bit

A compressed stream is a sequence of bits. They are taken from each byte starting at the
least significant one, and a number of several bits has its least significant bit first
as well.

`BitSource.bytes` leaves the sequence of bits: it is what remains after the byte that is
being read.
-/

namespace Courier.Gzip

/-- Bytes of which the first may have been read in part. -/
structure BitSource where
  rest : Bytes
  /-- How many bits of the first byte have been read; not all of them. -/
  used : Fin 8
deriving DecidableEq, Inhabited

namespace BitSource

/-- Bytes of which nothing has been read. -/
def ofBytes (b : Bytes) : BitSource := ⟨b, 0⟩

/-- The next bit. -/
def bit? : BitSource → Option (Bool × BitSource)
  | ⟨[], _⟩ => none
  | ⟨b :: r, used⟩ =>
    -- after the last bit of a byte the count begins again
    some (b.toNat.testBit used, ⟨if used = 7 then r else b :: r, used + 1⟩)

/-- A number of a given count of bits. -/
def number? : Nat → BitSource → Option (Nat × BitSource)
  | 0, s => some (0, s)
  | count + 1, s =>
    match s.bit? with
    | none => none
    | some (b, s) => (number? count s).map fun r => (b.toNat + 2 * r.1, r.2)

/-- The bytes after the one that is being read. -/
def bytes (s : BitSource) : Bytes := if s.used = 0 then s.rest else s.rest.drop 1

/-- A bound on the number of bits that are left. -/
def bound (s : BitSource) : Nat := 8 * s.rest.length

end BitSource

end Courier.Gzip
