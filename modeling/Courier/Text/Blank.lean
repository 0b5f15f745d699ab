/-!
# White space

The characters with the Unicode property `White_Space`, and what is left of a text
when they are cut off at both ends. A text is **blank** if nothing is left.

* `Courier.Blank.isBlankChar` – the property, as a table;
* `Courier.trim` – a text without the white space at its ends;
* `Courier.isBlank` – nothing but white space.
-/

namespace Courier

namespace Blank

/-- The characters with the property `White_Space`. -/
def isBlankChar (c : Char) : Bool :=
  let n := c.toNat
  (9 ≤ n && n ≤ 13) || n == 0x20 || n == 0x85 || n == 0xA0 || n == 0x1680
    || (0x2000 ≤ n && n ≤ 0x200A) || n == 0x2028 || n == 0x2029 || n == 0x202F
    || n == 0x205F || n == 0x3000

/-- A list of characters without the white space at its ends. -/
def trimChars (cs : List Char) : List Char :=
  ((cs.dropWhile isBlankChar).reverse.dropWhile isBlankChar).reverse

end Blank

/-- A text without the white space at its ends. -/
def trim (s : String) : String := String.ofList (Blank.trimChars s.toList)

/-- What is left of a text holds no other characters than the text. -/
theorem mem_of_mem_trim {c : Char} {s : String} (h : c ∈ (trim s).toList) : c ∈ s.toList := by
  rw [trim, String.toList_ofList, Blank.trimChars, List.mem_reverse] at h
  have hback := (List.dropWhile_suffix _).subset h
  rw [List.mem_reverse] at hback
  exact (List.dropWhile_suffix _).subset hback

/-- Nothing but white space. -/
def isBlank (s : String) : Bool := s.toList.all Blank.isBlankChar

end Courier
