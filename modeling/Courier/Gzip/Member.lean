import Courier.Gzip.Checksum
import Courier.Gzip.Inflate

/-!
# Compressed bodies

A compressed body is a header, a compressed stream, and the checksum and length of the
data. `gzip` writes one and `gunzip?` reads one:

* `gzip` divides the data into stored blocks, so its output is never much longer than the
  data, and its header names neither a time nor a file;
* `gunzip?` reads the **first** body only, whatever follows it, and refuses it if the
  checksum or the length is not that of the data.
-/

namespace Courier

namespace Gzip

/-! ### The header -/

/-- The mark of a compressed body and of its one method of compression. -/
def mark : Bytes := [0x1F, 0x8B, 8]

/-- The header that is written: no optional part, no time, and an unknown system. -/
def plainHeader : Bytes := mark ++ [0, 0, 0, 0, 0, 0, 0xFF]

/-- The greatest length of a name or comment in a header. -/
def longestName : Nat := 65535

/-- What follows a part with its length in front. -/
def afterCounted? : Bytes → Option Bytes
  | l0 :: l1 :: r =>
    let length := l0.toNat + 256 * l1.toNat
    if length ≤ r.length then some (r.drop length) else none
  | _ => none

/-- What follows a part that is ended by a zero. -/
def afterZero? (b : Bytes) : Option Bytes :=
  match b.span (· ≠ 0) with
  | (name, _ :: r) => if name.length ≤ longestName then some r else none
  | (_, []) => none

/-- What follows the checksum of the header: the two lower bytes of the checksum of
everything before it. -/
def afterHeaderSum? (whole rest : Bytes) : Option Bytes :=
  match rest with
  | c0 :: c1 :: r =>
    let sum := (checksum (whole.take (whole.length - rest.length))).toNat
    if c0.toNat + 256 * c1.toNat = sum % 65536 then some r else none
  | _ => none

/-- A step that is taken only if a flag is set. -/
def onlyIf (set : Bool) (step : Bytes → Option Bytes) (b : Bytes) : Option Bytes :=
  if set then step b else some b

/-- What follows the header of a body. The flags tell which of the optional parts there
are; a flag that is not known makes the body unreadable. -/
def afterHeader? (b : Bytes) : Option Bytes :=
  match b with
  | m0 :: m1 :: m2 :: flags :: _ :: _ :: _ :: _ :: _ :: _ :: r =>
    let has (i : Nat) : Bool := flags.toNat.testBit i
    if [m0, m1, m2] = mark ∧ flags < 32 then
      onlyIf (has 2) afterCounted? r
        >>= onlyIf (has 3) afterZero?
        >>= onlyIf (has 4) afterZero?
        >>= onlyIf (has 1) (afterHeaderSum? b)
    else none
  | _ => none

/-! ### The stream that is written -/

/-- The greatest length of a stored block. -/
def longestBlock : Nat := 65535

/-- A stored block of at most the greatest length. -/
def storedBlock (isLast : Bool) (data : Bytes) : Bytes :=
  (if isLast then 1 else 0) :: (littleEndian 2 data.length
    ++ littleEndian 2 (65535 - data.length) ++ data)

/-- Data as stored blocks. -/
def storedBlocks (data : Bytes) : Bytes :=
  if data.length ≤ longestBlock then storedBlock true data
  else storedBlock false (data.take longestBlock) ++ storedBlocks (data.drop longestBlock)
termination_by data.length
decreasing_by
  simp only [List.length_drop, longestBlock] at *
  omega

/-- The checksum and the length of data. -/
def trailer (data : Bytes) : Bytes :=
  littleEndian 4 (checksum data).toNat ++ littleEndian 4 data.length

end Gzip

/-- **Data as a compressed body.** -/
def gzip (data : Bytes) : Bytes :=
  Gzip.plainHeader ++ Gzip.storedBlocks data ++ Gzip.trailer data

/-- **The data of a compressed body.** -/
def gunzip? (b : Bytes) : Option Bytes :=
  match Gzip.afterHeader? b >>= Gzip.inflate? with
  | some (data, rest) => if rest.take 8 = Gzip.trailer data then some data else none
  | none => none

end Courier
