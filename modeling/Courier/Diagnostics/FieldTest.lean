import Courier.Diagnostics.Pattern
import Courier.Number.Nearest
import Courier.Number.Shortest
import Courier.Text.Piece

/-!
# Tests of fields

A directive may ask for a field by its name, or by its name and value: `name`, or
`name=value` (`FieldTest.read?`). A value is a truth value, a number in one of three forms,
or else a pattern, which has to be well formed.

Tests are put in an order (`FieldTest.compare`): those without a value first, then by
name, then by value. A value is written the shortest way (`FieldValue.text`), whatever
way it was given.
-/

namespace Courier.Diagnostics

/-- Which of two comes first; none if neither is less. -/
def ordered {α : Type} [LT α] [DecidableLT α] (a b : α) : Ordering :=
  if a < b then .lt else if b < a then .gt else .eq

/-- A value that a field is compared with. -/
inductive FieldValue where
  | flag (b : Bool)
  /-- A number with a fraction or an exponent, or infinity. -/
  | decimal (x : Binary64)
  | notANumber
  | natural (n : Nat)
  /-- The negative of a natural number. -/
  | negative (n : Nat)
  | pattern (text : String)
deriving DecidableEq, Inhabited

/-- A test of a field: its name and perhaps its value. -/
structure FieldTest where
  name : String
  value : Option FieldValue
deriving DecidableEq, Inhabited

namespace FieldValue

/-! ### Reading -/

/-- An optional sign in front of a text: whether it is a minus, and the rest. -/
def sign : List Char → Bool × List Char
  | '-' :: r => (true, r)
  | '+' :: r => (false, r)
  | cs => (false, cs)

/-- A whole number of 64 bits. The least negative one has no positive counterpart. -/
def whole? (cs : List Char) : Option FieldValue :=
  let (minus, digits) := sign cs
  let n := Nearest.digitsValue digits
  if digits = [] ∨ !digits.all Char.isDigit then none
  else if minus then if n ≤ Nat.pow 2 63 then some (.negative n) else none
  else if n < Nat.pow 2 64 then some (.natural n) else none

/-- The exponent after `e`: digits with a sign. Without an `e` it is zero. -/
def exponent? : List Char → Option Int
  | [] => some 0
  | _ :: cs =>
    let (minus, digits) := sign cs
    let n : Int := Nearest.exponentValue digits
    if digits = [] ∨ !digits.all Char.isDigit then none else some (if minus then -n else n)

/-- A number with a sign, a fraction and an exponent, each of which may be missing, or a
word for infinity or for what is no number. -/
def float? (cs : List Char) : Option FieldValue :=
  let (minus, r) := sign cs
  let signed (x : Float) : FieldValue := .decimal (.ofFloat (if minus then -x else x))
  let word := String.ofList (r.map Char.toLower)
  if word = "nan" then some .notANumber
  else if word = "inf" ∨ word = "infinity" then some (signed (Float.ofBits 0x7ff0000000000000))
  else
    let (mantissa, tail) := r.span fun c => c != 'e' && c != 'E'
    let (whole, point) := mantissa.span (· != '.')
    let fraction := point.drop 1
    if (whole = [] ∧ fraction = []) ∨ !(whole ++ fraction).all Char.isDigit then none
    else
      (exponent? tail).map fun e =>
        signed (Nearest.float (whole ++ fraction) (e - fraction.length))

/-- The value that a text stands for. -/
def read? (s : String) : Option FieldValue :=
  if s = "true" then some (.flag true)
  else if s = "false" then some (.flag false)
  else
    let cs := s.toList
    whole? cs <|> float? cs <|> (if Pattern.isWellFormed cs then some (.pattern s) else none)

/-! ### Writing -/

/-- A decimal without an exponent. -/
def positional (d : Shortest.Decimal) : List Char :=
  let digits := Nat.toDigits 10 d.digits
  let places := d.exponent.natAbs
  if d.digits = 0 then ['0']
  else if 0 ≤ d.exponent then digits ++ List.replicate places '0'
  else
    let digits := List.replicate (places + 1 - digits.length) '0' ++ digits
    digits.take (digits.length - places) ++ '.' :: digits.drop (digits.length - places)

/-- The size of a number with a fraction. -/
def sizeText (x : Binary64) : String :=
  if x.isFinite then String.ofList (positional (Shortest.decimal x.bits)) else "inf"

/-- The text of a value. -/
def text : FieldValue → String
  | .flag b => if b then "true" else "false"
  | .decimal x => (if x.bits.toNat < Nat.pow 2 63 then "" else "-") ++ sizeText x
  | .notANumber => "NaN"
  | .natural n => toString n
  | .negative n => (if n = 0 then "" else "-") ++ toString n
  | .pattern s => s

/-! ### Order -/

/-- The place of a kind of value among the kinds. -/
def kind : FieldValue → Nat
  | .flag _ => 0
  | .decimal _ => 1
  | .notANumber => 2
  | .natural _ => 3
  | .negative _ => 4
  | .pattern _ => 5

/-- Values in order: by their kind, and those of one kind by size. Zeros are equal. -/
def compare (a b : FieldValue) : Ordering :=
  match a, b with
  | .flag x, .flag y => ordered x.toNat y.toNat
  | .decimal x, .decimal y => ordered x.toFloat y.toFloat
  | .natural x, .natural y => ordered x y
  | .negative x, .negative y => ordered y x
  | .pattern x, .pattern y => ordered x y
  | _, _ => ordered a.kind b.kind

end FieldValue

namespace FieldTest

/-- The test that a text stands for: a name, and a value if there is an equals sign. What
follows a second equals sign is left out. -/
def read? (s : String) : Option FieldTest :=
  match splitAll '=' s with
  | name :: value :: _ => (FieldValue.read? value).map fun v => ⟨name, some v⟩
  | name :: [] => some ⟨name, none⟩
  | [] => none

/-- The text of a test. -/
def text (t : FieldTest) : String :=
  match t.value with
  | some v => t.name ++ "=" ++ v.text
  | none => t.name

/-- Tests in order. -/
def compare (a b : FieldTest) : Ordering :=
  match a.value, b.value with
  | none, some _ => .lt
  | some _, none => .gt
  | none, none => ordered a.name b.name
  | some v, some w => (ordered a.name b.name).then (v.compare w)

end FieldTest

end Courier.Diagnostics
