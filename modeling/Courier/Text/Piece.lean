/-!
# Pieces of text

Names of header fields, schemes and encodings are compared without regard to the case
of the letters `A` to `Z`; all other characters stay as they are. Texts are cut where a
character occurs, or where a number of bytes is full.

* `Courier.lowercase` – a text with its letters `A` to `Z` in lower case;
* `Courier.containsText` – whether a text occurs in another;
* `Courier.takeBytes?`, `Courier.dropBytes?` – the beginning of a text that fills a number
  of bytes exactly, and what follows it;
* `Courier.splitAtFirst?` – a text cut at the first occurrence of a character.
-/

namespace Courier

/-- A text with its letters `A` to `Z` in lower case. -/
def lowercase (s : String) : String := String.ofList (s.toList.map Char.toLower)

/-- Whether a text begins with another. -/
def startsWith (s head : String) : Bool := head.toList.isPrefixOf s.toList

/-- A text begins with another if that and a rest make it up. -/
theorem startsWith_iff {s head : String} :
    startsWith s head = true ↔ ∃ rest, s = head ++ rest := by
  rw [startsWith, List.isPrefixOf_iff_prefix]
  constructor
  · rintro ⟨cs, hcs⟩
    exact ⟨String.ofList cs, String.toList_inj.1 (by simp [← hcs])⟩
  · rintro ⟨rest, rfl⟩
    exact ⟨rest.toList, String.toList_append.symm⟩

/-- Whether a list occurs in another without gaps. -/
def occursIn (word : List Char) : List Char → Bool
  | [] => word.isEmpty
  | c :: r => word.isPrefixOf (c :: r) || occursIn word r

/-- Whether a text contains another. -/
def containsText (s word : String) : Bool := occursIn word.toList s.toList

/-- The beginning of a list of characters that fills `n` bytes exactly, if the `n`-th
byte is where a character ends. -/
def takeBytesChars? : Nat → List Char → Option (List Char)
  | 0, _ => some []
  | _ + 1, [] => none
  | n + 1, c :: cs =>
    if c.utf8Size ≤ n + 1 then (takeBytesChars? (n + 1 - c.utf8Size) cs).map (c :: ·) else none
termination_by _ cs => cs.length

/-- The beginning of a text that fills `n` bytes exactly, if there is one. -/
def takeBytes? (n : Nat) (s : String) : Option String :=
  (takeBytesChars? n s.toList).map String.ofList

/-- What follows the beginning that fills `n` bytes exactly. -/
def dropBytesChars? : Nat → List Char → Option (List Char)
  | 0, cs => some cs
  | _ + 1, [] => none
  | n + 1, c :: cs =>
    if c.utf8Size ≤ n + 1 then dropBytesChars? (n + 1 - c.utf8Size) cs else none
termination_by _ cs => cs.length

/-- What follows the beginning of a text that fills `n` bytes exactly. -/
def dropBytes? (n : Nat) (s : String) : Option String :=
  (dropBytesChars? n s.toList).map String.ofList

/-- What stands before and after the first occurrence of a character. -/
def splitAtFirst? (c : Char) (s : String) : Option (String × String) :=
  match s.toList.span (· ≠ c) with
  | (_, []) => none
  | (before, _ :: after) => some (String.ofList before, String.ofList after)

/-- The pieces between the occurrences of a character; always at least one. -/
def splitAll (c : Char) (s : String) : List String :=
  (s.toList.splitOn c).map String.ofList

end Courier
