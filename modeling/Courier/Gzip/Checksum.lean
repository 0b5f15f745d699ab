import Courier.Text.Utf8

/-!
# Checksums and numbers in bytes

A compressed body ends with two numbers that tell whether it was read back correctly:
the cyclic checksum of the data (`Gzip.checksum`) and its length. Both are written in
four bytes, the least significant byte first (`Gzip.littleEndian`).
-/

namespace Courier.Gzip

/-- One step of the checksum: a division by two modulo the polynomial, whose bits stand in
reverse order. -/
def shift (c : UInt32) : UInt32 :=
  if c &&& 1 = 1 then (c >>> 1) ^^^ 0xEDB88320 else c >>> 1

/-- One byte taken into a checksum. -/
def addByte (c : UInt32) (b : UInt8) : UInt32 := Nat.repeat shift 8 (c ^^^ b.toUInt32)

/-- **The cyclic checksum** of a byte string. -/
def checksum (b : Bytes) : UInt32 := b.foldl addByte 0xFFFFFFFF ^^^ 0xFFFFFFFF

/-- A number in a given count of bytes, the least significant first. What does not fit is
dropped. -/
def littleEndian : Nat → Nat → Bytes
  | 0, _ => []
  | count + 1, n => UInt8.ofNat n :: littleEndian count (n / 256)

/-- The number that bytes stand for, the least significant first. -/
def ofLittleEndian : Bytes → Nat
  | [] => 0
  | b :: r => b.toNat + 256 * ofLittleEndian r

@[simp] theorem length_littleEndian (count n : Nat) : (littleEndian count n).length = count := by
  induction count generalizing n with
  | zero => rfl
  | succ count ih => simp [littleEndian, ih]

/-- A number that fits reads back. -/
theorem ofLittleEndian_littleEndian (count n : Nat) (h : n < Nat.pow 256 count) :
    ofLittleEndian (littleEndian count n) = n := by
  induction count generalizing n with
  | zero =>
    have : n = 0 := by simpa using h
    simp [littleEndian, ofLittleEndian, this]
  | succ count ih =>
    have hd : n / 256 < Nat.pow 256 count := by
      apply (Nat.div_lt_iff_lt_mul (by decide : 0 < 256)).2
      simpa [Nat.pow_succ] using h
    simp only [littleEndian, ofLittleEndian, UInt8.toNat_ofNat', ih _ hd]
    omega

end Courier.Gzip
