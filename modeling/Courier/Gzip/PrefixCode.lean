import Courier.Gzip.Bits

/-!
# Prefix codes

In a prefix code, frequent symbols have short codes. The codes need not be sent: they
follow from their **lengths**. Codes of one length are consecutive numbers, given to the
symbols in ascending order, and the first code of a length follows from the codes of the
shorter lengths.

A code is therefore held level by level (`PrefixCode.levels`): the symbols with codes of
length one, two, and so on. Reading a symbol descends through the levels
(`PrefixCode.symbol?`). A code is **full** if no further code fits in
(`PrefixCode.isFull`).
-/

namespace Courier.Gzip

/-- The symbols of a prefix code by the lengths of their codes, from one up. -/
structure PrefixCode where
  levels : List (List Nat)
deriving DecidableEq, Inhabited

namespace PrefixCode

/-- The length of the longest code. -/
def longest : Nat := 15

/-- The code in which each symbol, from zero up, has a code of the given length; a symbol
of length zero has none. -/
def ofLengths (lengths : List Nat) : PrefixCode :=
  ⟨(List.range longest).map fun l =>
    (lengths.zipIdx.filter fun e => e.1 = l + 1).map (·.2)⟩

/-- How many symbols have a code. -/
def size (c : PrefixCode) : Nat := c.levels.flatten.length

/-- The codes of the longest length that are left over, given how many codes are free at
the level above; `none` if there are too many codes. -/
def spare? : List (List Nat) → Nat → Option Nat
  | [], free => some free
  | level :: rest, free =>
    if 2 * free < level.length then none else spare? rest (2 * free - level.length)

/-- Whether every sequence of bits begins with a code. -/
def isFull (c : PrefixCode) : Bool := spare? c.levels 1 = some 0

/-- The symbol of the code that a source begins with. `code` is what has been read of it
and `first` the first code of that length. -/
def descend? : List (List Nat) → Nat → Nat → BitSource → Option (Nat × BitSource)
  | [], _, _, _ => none
  | level :: rest, code, first, s =>
    match s.bit? with
    | none => none
    | some (b, s) =>
      let code := 2 * code + b.toNat
      match level[code - first]? with
      | some symbol => some (symbol, s)
      | none => descend? rest code (2 * (first + level.length)) s

/-- The next symbol. -/
def symbol? (c : PrefixCode) (s : BitSource) : Option (Nat × BitSource) :=
  descend? c.levels 0 0 s

end PrefixCode

end Courier.Gzip
