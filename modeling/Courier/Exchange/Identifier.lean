import Courier.Text.Hex

/-!
# Identifiers made of chance

A request without an identifier of its own gets one that no other request has: 122 random
bits, written as 32 hexadecimal digits in groups of 8, 4, 4, 4 and 12. Of the 128 bits that
the digits stand for, four say that the others are random (`Identifier.marked`) and two are
the same in all identifiers of this form.
-/

namespace Courier.Identifier

/-- A byte whose upper half is the number four. -/
def versioned (b : UInt8) : UInt8 := b % 16 + 64

/-- A byte whose two highest bits are a one and a zero. -/
def varied (b : UInt8) : UInt8 := b % 64 + 128

/-- Sixteen bytes with the marks of an identifier made of chance. -/
def marked (b : Bytes) : Bytes :=
  (b.zipIdx).map fun p => if p.2 = 6 then versioned p.1 else if p.2 = 8 then varied p.1 else p.1

/-- The groups of digits. -/
def groups : List (Nat × Nat) := [(0, 4), (4, 2), (6, 2), (8, 2), (10, 6)]

/-- **The identifier made of sixteen random bytes.** -/
def ofRandom (b : Bytes) : String :=
  "-".intercalate (groups.map fun g => Hex.ofBytes (((marked b).drop g.1).take g.2))

end Courier.Identifier
