import Courier.Json.Value
import Courier.Text.Hex

/-!
# Reading JSON

`Json.read?` reads a byte string that is one JSON value with nothing but white space
around it. The reading is strict: no byte order mark, no lone surrogate, no control
character inside a string, no leading zero, and no array or object nested deeper than
127 (`Json.maxDepth`).

**How a decimal is read** (`Json.Decimal.value?`): an integer of 64 bits stays an
integer. Any other number becomes a floating point number in two steps – the digits, as
many as 64 bits can hold, and then one multiplication or division by a power of ten. A
number too large for that is refused.
-/

namespace Courier.Json

/-- How deep arrays and objects may be nested. -/
def maxDepth : Nat := 127

/-! ### Numbers -/

namespace Decimal

/-- Whether a character is a digit. -/
def isDigit (c : Char) : Bool := c.isDigit

/-- The value of a digit. -/
def digitValue (c : Char) : Nat := c.toNat - 48

/-- Digits appended to a number as long as 64 bits can hold it: the number, how many
digits it took, and how many it left. -/
def absorb : Nat → List Char → Nat × Nat × Nat
  | s, [] => (s, 0, 0)
  | s, c :: cs =>
    let t := s * 10 + digitValue c
    if t < Nat.pow 2 64 then
      let (s', taken, left) := absorb t cs
      (s', taken + 1, left)
    else (s, 0, (c :: cs).length)

/-- A power of ten in floating point. -/
def power (n : Nat) : Float := Float.ofScientific 1 false n

/-- Division by ten to the power of `n`, in steps of at most `1e308`. -/
def shrink (x : Float) (n : Nat) : Float :=
  if n ≤ 308 then x / power n
  else if x == 0.0 then x
  else shrink (x / power 308) (n - 308)
termination_by n

/-- The number `significand · 10 ^ exponent`, unless it is too large. -/
def scale? (significand : Nat) (exponent : Int) : Option Float :=
  let x := Float.ofNat significand
  if exponent < 0 then some (shrink x exponent.natAbs)
  else if exponent ≤ 308 then
    let y := x * power exponent.natAbs
    if y.isInf then none else some y
  else if x == 0.0 then some x
  else none

/-- The parts of a number as they are written. -/
structure Written where
  isNegative : Bool
  whole : List Char
  fraction : Option (List Char)
  /-- Sign and digits. -/
  exponent : Option (Bool × List Char)

/-- The value of the digits of an exponent; all values that do not fit 31 bits count as
one. -/
def exponentValue (digits : List Char) : Nat :=
  digits.foldl (fun n c => min (n * 10 + digitValue c) (Nat.pow 2 31)) 0

/-- The value of a number, unless it is too large. -/
def value? (w : Written) : Option Number :=
  let (s, _, left) := absorb 0 w.whole
  let signed (x : Float) : Number := .float (.ofFloat (if w.isNegative then -x else x))
  if left = 0 ∧ w.fraction = none ∧ w.exponent = none then
    if !w.isNegative then some (.natural s)
    else if s = 0 ∨ Nat.pow 2 63 < s then some (signed (Float.ofNat s))
    else some (.negative s)
  else
    let (s', taken, _) := absorb s (w.fraction.getD [])
    let base : Int := (left : Int) - taken
    match w.exponent with
    | none => (scale? s' base).map signed
    | some (minus, digits) =>
      let e := exponentValue digits
      if e = Nat.pow 2 31 then
        if s' ≠ 0 ∧ !minus then none else some (signed 0.0)
      else (scale? s' (if minus then base - e else base + e)).map signed

/-- The number at the front of a text, as it is written, and what follows it. -/
def scan? (cs : List Char) : Option (Written × List Char) :=
  let (isNegative, cs) := match cs with
    | '-' :: r => (true, r)
    | _ => (false, cs)
  let (whole, cs) := cs.span isDigit
  if whole = [] ∨ (whole.head? = some '0' ∧ whole.length ≠ 1) then none
  else
    let exponent (w : Written) (cs : List Char) : Option (Written × List Char) :=
      match cs with
      | c :: r =>
        if c = 'e' ∨ c = 'E' then
          let (minus, r) := match r with
            | '+' :: r => (false, r)
            | '-' :: r => (true, r)
            | _ => (false, r)
          let (digits, r) := r.span isDigit
          if digits = [] then none else some ({ w with exponent := some (minus, digits) }, r)
        else some (w, cs)
      | [] => some (w, cs)
    match cs with
    | '.' :: r =>
      let (fraction, r) := r.span isDigit
      if fraction = [] then none else exponent ⟨isNegative, whole, some fraction, none⟩ r
    | _ => exponent ⟨isNegative, whole, none, none⟩ cs

end Decimal

/-! ### Strings -/

/-- Four hexadecimal digits at the front of a text. -/
def hex4? : List Char → Option (Nat × List Char)
  | a :: b :: c :: d :: r => do
    let a ← Hex.value? a.toNat
    let b ← Hex.value? b.toNat
    let c ← Hex.value? c.toNat
    let d ← Hex.value? d.toNat
    some (((a * 16 + b) * 16 + c) * 16 + d, r)
  | _ => none

/-- What an escape other than `\u` stands for. -/
def escaped? : Char → Option Char
  | '"' => some '"'
  | '\\' => some '\\'
  | '/' => some '/'
  | 'b' => some '\x08'
  | 'f' => some '\x0c'
  | 'n' => some '\n'
  | 'r' => some '\r'
  | 't' => some '\t'
  | _ => none

/-- The character of the code after `\u`: one code, or a high and a low surrogate. -/
def unicode? (cs : List Char) : Option (Char × List Char) := do
  let (n, r) ← hex4? cs
  if 0xD800 ≤ n ∧ n ≤ 0xDBFF then
    match r with
    | '\\' :: 'u' :: r =>
      let (m, r) ← hex4? r
      if 0xDC00 ≤ m ∧ m ≤ 0xDFFF then
        some (Char.ofNat (0x10000 + (n - 0xD800) * 0x400 + (m - 0xDC00)), r)
      else none
    | _ => none
  else if 0xDC00 ≤ n ∧ n ≤ 0xDFFF then none
  else some (Char.ofNat n, r)

/-- The rest of a string after its opening quote. `fuel` bounds the number of
characters. -/
def stringRest? : Nat → List Char → List Char → Option (String × List Char)
  | 0, _, _ => none
  | _ + 1, _, [] => none
  | fuel + 1, acc, c :: r =>
    if c = '"' then some (String.ofList acc.reverse, r)
    else if c = '\\' then
      match r with
      | [] => none
      | 'u' :: r =>
        match unicode? r with
        | some (x, r) => stringRest? fuel (x :: acc) r
        | none => none
      | e :: r =>
        match escaped? e with
        | some x => stringRest? fuel (x :: acc) r
        | none => none
    else if c.toNat < 0x20 then none
    else stringRest? fuel (c :: acc) r

/-! ### Values -/

/-- White space between the parts of a value. -/
def isSpace (c : Char) : Bool := c == ' ' || c == '\n' || c == '\r' || c == '\t'

/-- A text without white space at its beginning. -/
def skip (cs : List Char) : List Char := cs.dropWhile isSpace

/-- What follows a word at the front of a text. -/
def word? (w : String) (cs : List Char) : Option (List Char) :=
  if w.toList.isPrefixOf cs then some (cs.drop w.toList.length) else none

mutual

/-- A value at the front of a text, and what follows it. `depth` is how many more arrays
and objects may be opened. -/
def value? : Nat → Nat → List Char → Option (Json × List Char)
  | 0, _, _ => none
  | fuel + 1, depth, cs =>
    match skip cs with
    | [] => none
    | 'n' :: r => (word? "ull" r).map ((Json.null, ·))
    | 't' :: r => (word? "rue" r).map ((Json.bool true, ·))
    | 'f' :: r => (word? "alse" r).map ((Json.bool false, ·))
    | '"' :: r => (stringRest? (r.length + 1) [] r).map fun (s, r) => (.string s, r)
    | '[' :: r =>
      match depth with
      | 0 => none
      | depth + 1 =>
        match skip r with
        | ']' :: r => some (.array [], r)
        | r => items? fuel depth [] r
    | '\x7b' :: r =>
      match depth with
      | 0 => none
      | depth + 1 =>
        match skip r with
        | '\x7d' :: r => some (.object [], r)
        | r => (members? fuel depth [] r).map fun (members, r) => (ofMembers members, r)
    | r => do
      let (w, r) ← Decimal.scan? r
      let n ← Decimal.value? w
      some (.number n, r)

/-- The items of an array from the next item on. -/
def items? : Nat → Nat → List Json → List Char → Option (Json × List Char)
  | 0, _, _, _ => none
  | fuel + 1, depth, acc, cs => do
    let (j, r) ← value? fuel depth cs
    match skip r with
    | ',' :: r => items? fuel depth (j :: acc) r
    | ']' :: r => some (.array (j :: acc).reverse, r)
    | _ => none

/-- The members of an object from the next name on, as they are written. -/
def members? : Nat → Nat → List (String × Json) → List Char →
    Option (List (String × Json) × List Char)
  | 0, _, _, _ => none
  | fuel + 1, depth, acc, cs =>
    match skip cs with
    | '"' :: r => do
      let (name, r) ← stringRest? (r.length + 1) [] r
      match skip r with
      | ':' :: r =>
        let (j, r) ← value? fuel depth r
        match skip r with
        | ',' :: r => members? fuel depth ((name, j) :: acc) r
        | '\x7d' :: r => some (((name, j) :: acc).reverse, r)
        | _ => none
      | _ => none
    | _ => none

end

/-- The value that a list of characters spells. Every step of the reading consumes a
character, so twice as many steps as there are characters are enough. -/
def readChars? (cs : List Char) : Option Json := do
  let (j, r) ← value? (2 * cs.length + 1) maxDepth cs
  if skip r = [] then some j else none

/-- **The value that a byte string spells.** -/
def read? (b : Bytes) : Option Json := do
  let s ← Utf8.decode? b
  readChars? s.toList

/-- The members of the object that a list of characters spells, as they are written. -/
def readCharMembers? (cs : List Char) : Option (List (String × Json)) :=
  match skip cs with
  | '\x7b' :: r =>
    match skip r with
    | '\x7d' :: r => if skip r = [] then some [] else none
    | r => do
      let (members, r) ← members? (2 * r.length + 1) (maxDepth - 1) [] r
      if skip r = [] then some members else none
  | _ => none

/-- **The members of the object that a byte string spells**, in the order in which they
are written. A name that is written twice is there twice, unlike in the value that
`read?` finds. -/
def readMembers? (b : Bytes) : Option (List (String × Json)) := do
  let s ← Utf8.decode? b
  readCharMembers? s.toList

end Courier.Json
