import Courier.Diagnostics.Pattern.Mode
import Courier.Text.Hex

/-!
# Escapes

What a backslash and the characters after it stand for (`Pattern.Escape`). Not everything
that can be written is supported: there are no tables of upper and lower case, of scripts or
of properties of characters, and a pattern never matches what is not text. So

* a character cannot stand where letters match in either case, unless text is bytes;
* the classes of digits, blanks and word characters, and the ends of words, are there for
  bytes only, and the classes of all others not even for these;
* a byte beyond ASCII cannot be written.
-/

namespace Courier.Diagnostics.Pattern

/-- What an escape stands for. -/
inductive Escape where
  /-- A character, perhaps written as a byte. -/
  | literal (c : Char) (isByte : Bool)
  /-- The digits, the blanks or the word characters, or all other characters. -/
  | category (isNegated : Bool)
  /-- An end of the text. -/
  | edge
  /-- An end of a word, or a place that is none. -/
  | wordEdge
deriving DecidableEq, Inhabited

namespace Escape

/-- The digits of a code with `n` digits, and what follows them. -/
def digits? (m : Mode) : Nat → List Char → Option (List Nat × List Char)
  | 0, cs => some ([], m.skip cs)
  | n + 1, cs =>
    match m.skip cs with
    | [] => none
    | c :: r => do
      let v ← Hex.value? c.toNat
      let (vs, r) ← digits? m n r
      some (v :: vs, r)

/-- The character with the code of `n` hexadecimal digits at the front of a text. -/
def code? (m : Mode) (n : Nat) (cs : List Char) : Option (Escape × List Char) := do
  let (digits, r) ← digits? m n cs
  let value := digits.foldl (fun v d => v * 16 + d) 0
  if value.isValidChar then some (literal (Char.ofNat value) (n == 2), r) else none

/-- The escape at the front of a text, after its backslash. A letter or a digit has to have
a meaning; any other character of ASCII stands for itself, but angle brackets do not. -/
def read? (m : Mode) : List Char → Option (Escape × List Char)
  | [] => none
  | c :: r =>
    if c = 'x' then code? m 2 r
    else if c = 'u' then code? m 4 r
    else if c = 'U' then code? m 8 r
    else if c = 'd' ∨ c = 's' ∨ c = 'w' then some (category false, r)
    else if c = 'D' ∨ c = 'S' ∨ c = 'W' then some (category true, r)
    else if c = 'A' ∨ c = 'z' then some (edge, r)
    else if c = 'b' ∨ c = 'B' ∨ c = '<' ∨ c = '>' then some (wordEdge, r)
    else if c = 'a' then some (literal '\x07' false, r)
    else if c = 'f' then some (literal '\x0c' false, r)
    else if c = 't' then some (literal '\t' false, r)
    else if c = 'n' then some (literal '\n' false, r)
    else if c = 'r' then some (literal '\r' false, r)
    else if c = 'v' then some (literal '\x0b' false, r)
    else if c.isAlphanum ∨ 128 ≤ c.toNat then none
    else some (literal c false, r)

/-- Whether an escape is supported on its own. -/
def fits (m : Mode) : Escape → Bool
  | literal c isByte => if m.isUnicode then !m.ignoresCase else !isByte || c.toNat < 128
  | category isNegated => !m.isUnicode && !isNegated
  | edge => true
  | wordEdge => !m.isUnicode

/-- Whether an escape is supported as a member of a class. Among bytes no character beyond
ASCII can stand there. -/
def fitsClass (m : Mode) : Escape → Bool
  | literal c _ => if m.isUnicode then !m.ignoresCase else c.toNat < 128
  | category isNegated => !m.isUnicode && !isNegated
  | edge => false
  | wordEdge => false

end Escape

end Courier.Diagnostics.Pattern
