import Courier.Json.Value
import Courier.Number.Shortest
import Courier.Text.Hex
import Courier.Text.Utf8

/-!
# Writing JSON

* `Json.compact` – a value without white space;
* `Json.pretty` – a value over several lines, two spaces for each level;
* `Json.floatText` – a floating point number by its shortest decimal: positional from
  `1e-5` up to `1e16` and always with a point, scientific beyond. What is no number is
  `null`.
-/

namespace Courier.Json

/-- A whole number in decimal digits. -/
def digitsText (n : Nat) : List Char := Nat.toDigits 10 n

/-- A whole number with its sign. -/
def intText (i : Int) : List Char :=
  if i < 0 then '-' :: digitsText i.natAbs else digitsText i.natAbs

/-- The layout of a decimal. -/
def decimalText (d : Shortest.Decimal) : List Char :=
  let digits := digitsText d.digits
  let point : Int := (digits.length : Int) + d.exponent
  if d.digits = 0 then ['0', '.', '0']
  else if 0 ≤ d.exponent ∧ point ≤ 16 then
    digits ++ List.replicate d.exponent.natAbs '0' ++ ['.', '0']
  else if 0 < point ∧ point ≤ 16 then
    digits.take point.natAbs ++ '.' :: digits.drop point.natAbs
  else if -5 < point ∧ point ≤ 0 then
    '0' :: '.' :: (List.replicate point.natAbs '0' ++ digits)
  else if digits.length = 1 then digits ++ 'e' :: intText (point - 1)
  else digits.take 1 ++ '.' :: (digits.drop 1 ++ 'e' :: intText (point - 1))

/-- A floating point number. -/
def floatText (x : Binary64) : List Char :=
  if !x.isFinite then "null".toList
  else
    let size := decimalText (Shortest.decimal x.bits)
    if x.bits.toNat < Nat.pow 2 63 then size else '-' :: size

/-- A number. -/
def Number.text : Number → List Char
  | .natural n => digitsText n
  | .negative n => '-' :: digitsText n
  | .float x => floatText x

/-- A character inside a string. -/
def charText (c : Char) : List Char :=
  if c = '"' then ['\\', '"']
  else if c = '\\' then ['\\', '\\']
  else if c = '\x08' then ['\\', 'b']
  else if c = '\x0c' then ['\\', 'f']
  else if c = '\n' then ['\\', 'n']
  else if c = '\r' then ['\\', 'r']
  else if c = '\t' then ['\\', 't']
  else if c.toNat < 0x20 then
    ['\\', 'u', '0', '0', Hex.lower (c.toNat / 16), Hex.lower (c.toNat % 16)]
  else [c]

/-- A string. -/
def stringText (s : String) : List Char := '"' :: s.toList.flatMap charText ++ ['"']

/-- Pieces with a separator between them. -/
def joined (sep : List Char) : List (List Char) → List Char
  | [] => []
  | [p] => p
  | p :: q :: r => p ++ sep ++ joined sep (q :: r)

mutual

/-- The characters of a value without white space. -/
def compactChars : Json → List Char
  | .null => "null".toList
  | .bool true => "true".toList
  | .bool false => "false".toList
  | .number n => n.text
  | .string s => stringText s
  | .array items => '[' :: joined [','] (compactItems items) ++ [']']
  | .object members => '\x7b' :: joined [','] (compactMembers members) ++ ['\x7d']

/-- The items of an array without white space. -/
def compactItems : List Json → List (List Char)
  | [] => []
  | j :: r => compactChars j :: compactItems r

/-- The members of an object without white space. -/
def compactMembers : List (String × Json) → List (List Char)
  | [] => []
  | (n, j) :: r => (stringText n ++ ':' :: compactChars j) :: compactMembers r

end

/-- A value without white space. -/
def compact (j : Json) : String := String.ofList (compactChars j)

/-- A new line at a level. -/
def newline (level : Nat) : List Char := '\n' :: List.replicate (2 * level) ' '

mutual

/-- The characters of a value over several lines. -/
def prettyChars (level : Nat) : Json → List Char
  | .array [] => ['[', ']']
  | .array items =>
    '[' :: newline (level + 1)
      ++ joined (',' :: newline (level + 1)) (prettyItems (level + 1) items)
      ++ newline level ++ [']']
  | .object [] => ['\x7b', '\x7d']
  | .object members =>
    '\x7b' :: newline (level + 1)
      ++ joined (',' :: newline (level + 1)) (prettyMembers (level + 1) members)
      ++ newline level ++ ['\x7d']
  | j => compactChars j

/-- The items of an array over several lines. -/
def prettyItems (level : Nat) : List Json → List (List Char)
  | [] => []
  | j :: r => prettyChars level j :: prettyItems level r

/-- The members of an object over several lines. -/
def prettyMembers (level : Nat) : List (String × Json) → List (List Char)
  | [] => []
  | (n, j) :: r => (stringText n ++ ':' :: ' ' :: prettyChars level j) :: prettyMembers level r

end

/-- A value over several lines. -/
def pretty (j : Json) : String := String.ofList (prettyChars 0 j)

end Courier.Json
