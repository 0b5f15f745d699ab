/-!
# Labels in ASCII

A label with characters beyond ASCII is written in ASCII: first its characters of ASCII, then
a hyphen, then a **code** that says which other characters are put in, and where.
`Punycode.decode?` is the label that is written in this way.

The code is a row of numbers. All places where a character can be put in, for every
character from U+0080 on, are counted through; a number says how many of them to pass by
until the next one that is used. Numbers are written with digits that mean less the further
left they stand, the last digit of a number being one below a **threshold**; the thresholds
are adapted to how large the numbers have been so far.
-/

namespace Courier.Punycode

/-- The value of a digit: the letters count from zero, the digits go on at 26. -/
def digit? (c : Char) : Option Nat :=
  if 'a' ≤ c ∧ c ≤ 'z' then some (c.toNat - 'a'.toNat)
  else if 'A' ≤ c ∧ c ≤ 'Z' then some (c.toNat - 'A'.toNat)
  else if c.isDigit then some (c.toNat - '0'.toNat + 26)
  else none

/-- The threshold of the digit at a place; places count by 36. -/
def threshold (bias place : Nat) : Nat :=
  if place ≤ bias then 1 else if bias + 26 ≤ place then 26 else place - bias

/-- The numbers have to be smaller than this. -/
def bound : Nat := Nat.pow 2 32

/-- The number at the front of a code, added to `sum`, and what follows it. `weight` is what a
digit counts at this place. -/
def number? (bias : Nat) : Nat → Nat → Nat → List Char → Option (Nat × List Char)
  | _, _, _, [] => none
  | place, weight, sum, c :: r => do
    let d ← digit? c
    let sum := sum + d * weight
    let t := threshold bias place
    if bound ≤ sum ∨ bound ≤ weight then none
    else if d < t then some (sum, r)
    else number? bias (place + 36) (weight * (36 - t)) sum r

/-- What is left of a number when it is small enough for the bias, and by how many places it
has been cut down. -/
def cutDown : Nat → Nat → Nat → Nat × Nat
  | 0, n, places => (n, places)
  | fuel + 1, n, places => if 455 < n then cutDown fuel (n / 35) (places + 36) else (n, places)

/-- The bias after a number, given how many characters there are now. The first number counts
less. -/
def adapt (n length : Nat) (isFirst : Bool) : Nat :=
  let n := if isFirst then n / 700 else n / 2
  let n := n + n / length
  let (rest, places) := cutDown n n 0
  places + 36 * rest / (rest + 38)

/-- Characters put in, as the code says. `code` is the next character and `place` where it can
be put in first. -/
def fill? : Nat → Nat → Nat → Nat → List Char → List Char → Option (List Char)
  | 0, _, _, _, _, _ => none
  | fuel + 1, bias, code, place, cs, digits =>
    if digits = [] then some cs
    else do
      let (n, r) ← number? bias 36 1 place digits
      let length := cs.length + 1
      let code := code + n / length
      let spot := n % length
      if !code.isValidChar then none
      else
        fill? fuel (adapt (n - place) length (place == 0)) code (spot + 1)
          (cs.take spot ++ Char.ofNat code :: cs.drop spot) r

/-- **The label that is written in ASCII.** What stands before the last hyphen is taken as it
is. -/
def decode? (s : List Char) : Option (List Char) :=
  let code := (s.reverse.takeWhile (· != '-')).reverse
  let basic := (s.take (s.length - code.length)).dropLast
  if basic = [] ∧ s.contains '-' then none
  else fill? (code.length + 1) 72 128 0 basic code

end Courier.Punycode
