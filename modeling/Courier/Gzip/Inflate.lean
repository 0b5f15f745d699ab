import Courier.Gzip.PrefixCode

/-!
# Reading a compressed stream

A compressed stream is a sequence of blocks, the last of which is marked as such. A block
holds its data

* stored as it is (`Inflate.stored?`), or
* as symbols of two prefix codes, either fixed (`Inflate.fixedCodes`) or sent with the
  block (`Inflate.sentCodes?`).

A symbol is a byte, the end of the block, or the length of a **repetition** of earlier
data, which is followed by the distance back to it (`Inflate.item?`). A repetition may
reach over its own start, and what lies before the beginning of the data reads as zeros
(`Inflate.repeated`).

The readers of sequences are given a bound on the number of their steps. Each step takes
at least one bit, so the number of bits left is always enough.
-/

namespace Courier.Gzip.Inflate

/-- Data read so far. -/
abbrev Output := Array UInt8

/-- The codes of a block. -/
structure Codes where
  /-- Bytes, the end of the block, and lengths. -/
  symbols : PrefixCode
  distances : PrefixCode

/-- The symbol that ends a block. -/
def endOfBlock : Nat := 256

/-- The least length that a symbol stands for and how many further bits it takes, from
symbol 257 on. -/
def lengths : List (Nat × Nat) := [
  (3, 0), (4, 0), (5, 0), (6, 0), (7, 0), (8, 0), (9, 0), (10, 0), (11, 1), (13, 1), (15, 1),
  (17, 1), (19, 2), (23, 2), (27, 2), (31, 2), (35, 3), (43, 3), (51, 3), (59, 3), (67, 4),
  (83, 4), (99, 4), (115, 4), (131, 5), (163, 5), (195, 5), (227, 5), (258, 0)]

/-- The least distance that a symbol stands for and how many further bits it takes. -/
def distances : List (Nat × Nat) := [
  (1, 0), (2, 0), (3, 0), (4, 0), (5, 1), (7, 1), (9, 2), (13, 2), (17, 3), (25, 3), (33, 4),
  (49, 4), (65, 5), (97, 5), (129, 6), (193, 6), (257, 7), (385, 7), (513, 8), (769, 8),
  (1025, 9), (1537, 9), (2049, 10), (3073, 10), (4097, 11), (6145, 11), (8193, 12), (12289, 12),
  (16385, 13), (24577, 13)]

/-- The number that an entry of a table and the bits after it stand for. -/
def extended? (table : List (Nat × Nat)) (index : Nat) (s : BitSource) :
    Option (Nat × BitSource) :=
  match table[index]? with
  | none => none
  | some (least, bits) => (s.number? bits).map fun r => (least + r.1, r.2)

/-- What a symbol stands for, with the bits that follow it. -/
inductive Item where
  | byte (x : UInt8)
  | repetition (length distance : Nat)
  | endOfBlock
deriving DecidableEq, Repr

/-- The length that an entry of the table stands for, and the distance behind it. -/
def repetition? (c : Codes) (index : Nat) (s : BitSource) : Option (Item × BitSource) :=
  match extended? lengths index s with
  | none => none
  | some (length, s) =>
    match c.distances.symbol? s with
    | none => none
    | some (far, s) =>
      (extended? distances far s).map fun r => (.repetition length r.1, r.2)

/-- The next byte, repetition or end of the block. -/
def item? (c : Codes) (s : BitSource) : Option (Item × BitSource) :=
  match c.symbols.symbol? s with
  | none => none
  | some (symbol, s) =>
    if symbol < endOfBlock then some (.byte (UInt8.ofNat symbol), s)
    else if symbol = endOfBlock then some (.endOfBlock, s)
    else repetition? c (symbol - 257) s

/-- Data repeated from a distance back, byte by byte. -/
def repeated (distance : Nat) : Nat → Output → Output
  | 0, out => out
  | count + 1, out =>
    let byte := if distance ≤ out.size then out.getD (out.size - distance) 0 else 0
    repeated distance count (out.push byte)

/-- The data of a block up to its end. -/
def items? (c : Codes) : Nat → BitSource → Output → Option (Output × BitSource)
  | 0, _, _ => none
  | steps + 1, s, out =>
    match item? c s with
    | none => none
    | some (.endOfBlock, s) => some (out, s)
    | some (.byte x, s) => items? c steps s (out.push x)
    | some (.repetition length distance, s) => items? c steps s (repeated distance length out)

/-- The codes that need not be sent. -/
def fixedCodes : Codes where
  symbols := .ofLengths (List.replicate 144 8 ++ List.replicate 112 9 ++ List.replicate 24 7
    ++ List.replicate 8 8)
  distances := .ofLengths (List.replicate 32 5)

/-- The symbols of the code of lengths in the order in which their own lengths are sent. -/
def lengthOrder : List Nat := [16, 17, 18, 0, 8, 7, 9, 6, 10, 5, 11, 4, 12, 3, 13, 2, 14, 1, 15]

/-- Numbers of three bits. -/
def triples? : Nat → BitSource → Option (List Nat × BitSource)
  | 0, s => some ([], s)
  | count + 1, s =>
    match s.number? 3 with
    | none => none
    | some (n, s) => (triples? count s).map fun r => (n :: r.1, r.2)

/-- The code of lengths, given the lengths of its own codes in the order in which they are sent. -/
def lengthCode (sizes : List Nat) : PrefixCode :=
  .ofLengths ((List.range 19).map fun i => ((lengthOrder.zip sizes).lookup i).getD 0)

/-- The lengths that a symbol of the code of lengths stands for: one length, the last length
repeated, or zeros. The lengths before them are given in reverse order. -/
def run? (sent : List Nat) (symbol : Nat) (s : BitSource) : Option (List Nat × BitSource) :=
  match symbol with
  -- the last length three to six times more
  | 16 => sent.head?.bind fun last =>
      (s.number? 2).map fun r => (List.replicate (3 + r.1) last, r.2)
  -- three to ten zeros, and eleven or more
  | 17 => (s.number? 3).map fun r => (List.replicate (3 + r.1) 0, r.2)
  | 18 => (s.number? 7).map fun r => (List.replicate (11 + r.1) 0, r.2)
  | length => some ([length], s)

/-- The next lengths, given those before them in reverse order. -/
def nextLengths? (code : PrefixCode) (sent : List Nat) (s : BitSource) :
    Option (List Nat × BitSource) :=
  match code.symbol? s with
  | none => none
  | some (symbol, s) => run? sent symbol s

/-- A count of lengths sent by a code of their own, in reverse order. -/
def sentLengths? (code : PrefixCode) (count : Nat) :
    Nat → BitSource → List Nat → Option (List Nat × BitSource)
  | 0, _, _ => none
  | steps + 1, s, sent =>
    if count < sent.length then none
    else if sent.length = count then some (sent, s)
    else
      match nextLengths? code sent s with
      | none => none
      | some (run, s) => sentLengths? code count steps s (run ++ sent)

/-- Whether a code may be used for data: it is full, or it has no symbol, or it has one
symbol with a code of one bit. -/
def isUsable (c : PrefixCode) : Bool :=
  c.isFull || (c.size ≤ 1 && (c.levels.headD []).length == c.size)

/-- A count: a number of bits to which the least count is added; not above the greatest. -/
def count? (bits least greatest : Nat) (s : BitSource) : Option (Nat × BitSource) :=
  ((s.number? bits).map fun r => (least + r.1, r.2)).filter fun r => r.1 ≤ greatest

/-- The code of lengths, which has to be full. -/
def lengthCode? (count : Nat) (s : BitSource) : Option (PrefixCode × BitSource) :=
  ((triples? count s).map fun r => (lengthCode r.1, r.2)).filter fun r => r.1.isFull

/-- The codes with given lengths, those of the symbols before those of the distances. -/
def codesOf (symbolCount : Nat) (lengths : List Nat) : Codes where
  symbols := .ofLengths (lengths.take symbolCount)
  distances := .ofLengths (lengths.drop symbolCount)

/-- The codes of symbols and distances, both of which have to be usable. -/
def dataCodes? (code : PrefixCode) (symbolCount distanceCount : Nat) (s : BitSource) :
    Option (Codes × BitSource) :=
  let count := symbolCount + distanceCount
  ((sentLengths? code count (count + 1) s []).map
    fun r => (codesOf symbolCount r.1.reverse, r.2)).filter
      fun r => isUsable r.1.symbols && isUsable r.1.distances

/-- The codes sent with a block: how many lengths there are of each kind, the code of the
lengths, and the lengths. The last two symbols and distances exist in the fixed codes only. -/
def sentCodes? (s : BitSource) : Option (Codes × BitSource) := do
  let (symbolCount, s) ← count? 5 257 286 s
  let (distanceCount, s) ← count? 5 1 30 s
  let (lengthCount, s) ← count? 4 4 19 s
  let (code, s) ← lengthCode? lengthCount s
  dataCodes? code symbolCount distanceCount s

/-- A stored block: its length, the complement of its length, and its data, beginning with
the next byte. -/
def stored? (s : BitSource) (out : Output) : Option (Output × BitSource) :=
  match s.bytes with
  | l0 :: l1 :: n0 :: n1 :: data =>
    let length := l0.toNat + 256 * l1.toNat
    if length + (n0.toNat + 256 * n1.toNat) = 65535 ∧ length ≤ data.length then
      some (out ++ (data.take length).toArray, .ofBytes (data.drop length))
    else none
  | _ => none

/-- One block, after the mark that tells whether it is the last. -/
def block? (s : BitSource) (out : Output) : Option (Output × BitSource) :=
  match s.number? 2 with
  | some (0, s) => stored? s out
  | some (1, s) => items? fixedCodes (s.bound + 1) s out
  | some (2, s) =>
    match sentCodes? s with
    | some (c, s) => items? c (s.bound + 1) s out
    | none => none
  | _ => none

/-- Blocks up to the last. -/
def blocks? : Nat → BitSource → Output → Option (Output × BitSource)
  | 0, _, _ => none
  | steps + 1, s, out =>
    match s.bit? with
    | none => none
    | some (isLast, s) =>
      match block? s out with
      | none => none
      | some (out, s) => if isLast then some (out, s) else blocks? steps s out

end Inflate

/-- **The data of a compressed stream** and the bytes that follow it. -/
def inflate? (b : Bytes) : Option (Bytes × Bytes) :=
  (Inflate.blocks? (8 * b.length + 1) (.ofBytes b) #[]).map fun r => (r.1.toList, r.2.bytes)

end Courier.Gzip
