import Courier.Text.Utf8

/-!
# Hexadecimal text

* `Courier.Hex.lower`, `Courier.Hex.upper` – the digit of a value below sixteen;
* `Courier.Hex.value?` – the value of a digit, given by its code, in either case;
* `Courier.Hex.ofBytes` – two lower-case digits for each byte.
-/

namespace Courier.Hex

/-- The lower-case digit of a value below sixteen. -/
def lower (n : Nat) : Char :=
  if n < 10 then Char.ofNat (48 + n) else Char.ofNat (87 + n)

/-- The upper-case digit of a value below sixteen. -/
def upper (n : Nat) : Char :=
  if n < 10 then Char.ofNat (48 + n) else Char.ofNat (55 + n)

/-- The code of the upper-case digit of a value below sixteen. -/
def upperByte (n : Nat) : UInt8 := UInt8.ofNat (upper n).toNat

/-- The value of a digit with this code, in either case. -/
def value? (code : Nat) : Option Nat :=
  if 48 ≤ code ∧ code ≤ 57 then some (code - 48)
  else if 65 ≤ code ∧ code ≤ 70 then some (code - 55)
  else if 97 ≤ code ∧ code ≤ 102 then some (code - 87)
  else none

/-- The two digits of a byte, more significant first. -/
def pair (digit : Nat → Char) (b : UInt8) : List Char :=
  [digit (b.toNat / 16), digit (b.toNat % 16)]

/-- Two lower-case digits for each byte. -/
def ofBytes (b : Bytes) : String := String.ofList (b.flatMap (pair lower))

/-- The digits of a number without leading zeros, in lower case. -/
def ofNat (n : Nat) : String := String.ofList ((Nat.toDigits 16 n))

/-- **A digit reads back**: each value below sixteen is the value of its lower-case
digit and of its upper-case digit. -/
theorem value?_digit : ∀ n < 16,
    value? (lower n).toNat = some n ∧ value? (upper n).toNat = some n := by decide

/-- The digits of a byte string are digits of values below sixteen. -/
theorem exists_of_mem_ofBytes {c : Char} {b : Bytes} (h : c ∈ (ofBytes b).toList) :
    ∃ n < 16, c = lower n := by
  rw [ofBytes, String.toList_ofList] at h
  obtain ⟨x, -, hx⟩ := List.mem_flatMap.1 h
  have hlt := x.toNat_lt
  simp only [pair, List.mem_cons, List.not_mem_nil, or_false] at hx
  rcases hx with rfl | rfl
  · exact ⟨x.toNat / 16, by omega, rfl⟩
  · exact ⟨x.toNat % 16, by omega, rfl⟩

end Courier.Hex
