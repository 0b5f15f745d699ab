/-!
# Ranges of characters

A property of characters is given as a table of ranges of codes, both ends included
(`Courier.Ranges`). A character has the property if one of the ranges holds it.
-/

namespace Courier

/-- Ranges of codes of characters, in ascending order. -/
abbrev Ranges := List (Nat × Nat)

/-- Whether one of the ranges holds a character. -/
def Ranges.contains (ranges : Ranges) (c : Char) : Bool :=
  ranges.any fun r => r.1 ≤ c.toNat && c.toNat ≤ r.2

end Courier
