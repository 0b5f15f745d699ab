import Courier.Json.Value
import Courier.Number.Nearest
import Courier.Text.Moment
import Courier.Toml.Text

/-!
# The numbers and dates of a settings file

A value that is neither a text nor a container is a word: a truth value, a number or a
date. `Toml.word?` reads one.

* Integers have 64 bits with a sign. Digits may be set apart by single underscores; a
  leading zero is only allowed alone.
* Floating point numbers are rounded to the nearest; `inf` and `nan` are numbers, but a
  number that is written with digits must not be too large.
* Dates are checked – the day against its month – and are kept as a table of one entry,
  so that a date is no text. The entry holds the date in one written form (`Toml.moment?`):
  `T` and `Z` are capital, and a second has nine decimals at most.
-/

namespace Courier.Toml

/-! ### Digits -/

/-- Digits that pass a test, set apart by single underscores, without the underscores. -/
def grouped? (isDigit : Char → Bool) (cs : List Char) : Option (List Char) :=
  let groups := cs.splitOn '_'
  if groups.all fun g => !g.isEmpty && g.all isDigit then some groups.flatten else none

/-- The number that digits spell to a base. -/
def number (base : Nat) (digits : List Char) : Nat :=
  digits.foldl (fun n c => n * base + ((Hex.value? c.toNat).getD 0)) 0

/-- An optional sign in front of a word: whether it is a minus, and the rest. -/
def sign : List Char → Bool × List Char
  | '-' :: r => (true, r)
  | '+' :: r => (false, r)
  | cs => (false, cs)

/-- Whether digits have no zero in front of others. -/
def isUnpadded (digits : List Char) : Bool := digits.length == 1 || digits.head? != some '0'

/-! ### Integers -/

/-- An integer of 64 bits. -/
def integer? (minus : Bool) (n : Nat) : Option Json :=
  if minus then
    if n = 0 then some (.nat 0)
    else if n ≤ Nat.pow 2 63 then some (.number (.negative n)) else none
  else if n < Nat.pow 2 63 then some (.nat n) else none

/-- An integer to one of the four bases. -/
def integerWord? (cs : List Char) : Option Json :=
  match cs with
  | '0' :: 'x' :: r => do
    let d ← grouped? (fun c => (Hex.value? c.toNat).isSome) r
    integer? false (number 16 d)
  | '0' :: 'o' :: r => do
    let d ← grouped? (fun c => '0' ≤ c && c ≤ '7') r
    integer? false (number 8 d)
  | '0' :: 'b' :: r => do
    let d ← grouped? (fun c => c == '0' || c == '1') r
    integer? false (number 2 d)
  | _ => do
    let (minus, r) := sign cs
    let d ← grouped? Char.isDigit r
    if isUnpadded d then integer? minus (number 10 d) else none

/-! ### Floating point numbers -/

/-- A number with a sign. -/
def signed (minus : Bool) (x : Float) : Json :=
  .number (.float (.ofFloat (if minus then -x else x)))

/-- The exponent after `e`: digits with a sign. -/
def exponent? (cs : List Char) : Option Int := do
  let (minus, r) := sign cs
  let d ← grouped? Char.isDigit r
  let n := Nearest.exponentValue d
  some (if minus then -(n : Int) else (n : Int))

/-- A floating point number. A positive one must not be too large. -/
def floatWord? (cs : List Char) : Option Json :=
  let (minus, r) := sign cs
  if r = "inf".toList then some (signed minus (Float.ofBits 0x7ff0000000000000))
  else if r = "nan".toList then some (signed minus (Float.ofBits 0x7ff8000000000000))
  else
    let (mantissa, tail) := r.span fun c => c != 'e' && c != 'E'
    let (whole, fraction) := mantissa.span (· != '.')
    if fraction = [] ∧ tail = [] then none
    else do
      let w ← grouped? Char.isDigit whole
      let f ← match fraction with
        | [] => some []
        | _ :: f => grouped? Char.isDigit f
      let e ← match tail with
        | [] => some 0
        | _ :: e => exponent? e
      let x := Nearest.float (w ++ f) (e - f.length)
      if isUnpadded w ∧ (minus ∨ !x.isInf) then some (signed minus x) else none

/-! ### Dates and times -/

/-- A number of exactly `n` digits within bounds. -/
def field? (n low high : Nat) (cs : List Char) : Option (Nat × List Char) :=
  let d := cs.take n
  let v := number 10 d
  if d.length = n ∧ d.all Char.isDigit ∧ low ≤ v ∧ v ≤ high then some (v, cs.drop n) else none

/-- What follows one of some characters. -/
def after? (marks : List Char) : List Char → Option (List Char)
  | c :: r => if marks.contains c then some r else none
  | [] => none

/-- The number of days of a month. -/
def daysOf (year month : Nat) : Nat :=
  if month = 2 then
    if year % 4 = 0 ∧ (year % 100 ≠ 0 ∨ year % 400 = 0) then 29 else 28
  else if [4, 6, 9, 11].contains month then 30
  else 31

/-- A date at the front of a text: the date, which has one written form only, and what
follows it. -/
def date? (cs : List Char) : Option (String × List Char) := do
  let (year, r) ← field? 4 0 9999 cs
  let r ← after? ['-'] r
  let (month, r) ← field? 2 1 12 r
  let r ← after? ['-'] r
  let (_, r) ← field? 2 1 (daysOf year month) r
  some (String.ofList (cs.take 10), r)

/-- The digits after the seconds as they are kept: nine of them at most, and no zeros at
their end. -/
def fractionText (digits : List Char) : String :=
  match (digits.take 9).reverse.dropWhile (· == '0') with
  | [] => ""
  | kept => "." ++ String.ofList kept.reverse

/-- A time of day at the front of a text, as it is kept. -/
def time? (cs : List Char) : Option (String × List Char) := do
  let (_, r) ← field? 2 0 23 cs
  let r ← after? [':'] r
  let (_, r) ← field? 2 0 59 r
  let r ← after? [':'] r
  let (_, r) ← field? 2 0 60 r
  let whole := String.ofList (cs.take 8)
  match r with
  | '.' :: r =>
    let (d, r) := r.span Char.isDigit
    if d = [] then none else some (whole ++ fractionText d, r)
  | _ => some (whole, r)

/-- A distance from universal time at the front of a text, if there is one. No distance
at all is written with a plus. -/
def offset? (cs : List Char) : Option (String × List Char) :=
  match cs with
  | 'Z' :: r => some ("Z", r)
  | 'z' :: r => some ("Z", r)
  | c :: r =>
    if c = '+' ∨ c = '-' then do
      let (hours, r) ← field? 2 0 23 r
      let r ← after? [':'] r
      let (minutes, r) ← field? 2 0 59 r
      let mark := if c = '-' ∧ (hours ≠ 0 ∨ minutes ≠ 0) then "-" else "+"
      some (mark ++ Moment.padded 2 hours ++ ":" ++ Moment.padded 2 minutes, r)
    else some ("", cs)
  | [] => some ("", [])

/-- The moment that a word spells, as it is kept: a date, a time, or both with a `T`
between them and perhaps with a distance from universal time. -/
def moment? (cs : List Char) : Option String :=
  match date? cs with
  | some (date, []) => some date
  | some (date, r) => do
    let (time, r) ← after? ['T', 't', ' '] r >>= time?
    let (offset, r) ← offset? r
    if r = [] then some (date ++ "T" ++ time ++ offset) else none
  | none =>
    match time? cs with
    | some (time, []) => some time
    | _ => none

/-- The table of one entry that a moment is read as. -/
def moment (written : String) : Json := .object [("$__toml_private_datetime", .string written)]

/-! ### Words -/

/-- Whether a character belongs to a word. -/
def isWordChar (c : Char) : Bool :=
  c.isAlphanum || c == '_' || c == '+' || c == '-' || c == '.' || c == ':'

/-- The word at the front of a text. One space may stand between a date and a time. -/
def spanWord (cs : List Char) : List Char × List Char :=
  let (w, r) := cs.span isWordChar
  match r with
  | ' ' :: a :: b :: r' =>
    if (date? w).any (·.2.isEmpty) ∧ a.isDigit ∧ b.isDigit then
      let (t, r'') := (a :: b :: r').span isWordChar
      (w ++ ' ' :: t, r'')
    else (w, r)
  | _ => (w, r)

/-- The value of a word. -/
def wordValue? (w : List Char) : Option Json :=
  if w = "true".toList then some (.bool true)
  else if w = "false".toList then some (.bool false)
  else
    (moment? w).map moment <|> integerWord? w <|> floatWord? w

/-- The value of the word at the front of a text, and what follows it. -/
def word? (cs : List Char) : Option (Json × List Char) :=
  let (w, r) := spanWord cs
  (wordValue? w).map ((·, r))

end Courier.Toml
