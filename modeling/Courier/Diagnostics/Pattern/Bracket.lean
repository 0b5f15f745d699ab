import Courier.Diagnostics.Pattern.Escape

/-!
# Classes

A **class** is a set of characters between brackets. Its members are characters, ranges,
named classes and classes again. Two hyphens, ampersands or tildes combine what stands
before them with the members that follow.

`Pattern.Bracket.read?` finds the end of a class and says how deep it is nested. A level of
nesting is made by a class, by several members next to each other, and by a combination.
-/

namespace Courier.Diagnostics.Pattern

/-- How deep parts that stand next to each other are nested: one deeper than the deepest,
unless there is only one. -/
def joined : List Nat → Nat
  | [] => 0
  | [d] => d
  | ds => 1 + ds.foldl Nat.max 0

/-- A class whose end has not been read. -/
structure Bracket where
  /-- How deep it is nested what stands before the last combination. -/
  before : Option Nat
  /-- How deep the members since then are nested. -/
  members : List Nat
deriving DecidableEq, Inhabited

namespace Bracket

/-- How deep what has been read of a class is nested. -/
def nesting (b : Bracket) : Nat :=
  match b.before with
  | none => joined b.members
  | some d => 1 + Nat.max d (joined b.members)

/-- One more member. -/
def add (b : Bracket) (nesting : Nat) : Bracket := { b with members := nesting :: b.members }

/-- A class after the sign for a combination. -/
def combined (b : Bracket) : Bracket := ⟨some b.nesting, []⟩

/-! ### Members -/

/-- The names of classes that may stand between `[:` and `:]`. -/
def names : List String := ["alnum", "alpha", "ascii", "blank", "cntrl", "digit", "graph",
  "lower", "print", "punct", "space", "upper", "word", "xdigit"]

/-- Whether a named class is the class of all others, and what follows it. The text stands
after its opening bracket. -/
def named? : List Char → Option (Bool × List Char)
  | ':' :: cs =>
    let (isNegated, cs) := match cs with
      | '^' :: r => (true, r)
      | _ => (false, cs)
    match cs.span Char.isAlpha with
    | (name, ':' :: ']' :: r) =>
      if names.contains (String.ofList name) then some (isNegated, r) else none
    | _ => none
  | _ => none

/-- One character or escape. -/
def item? (m : Mode) : List Char → Option (Escape × List Char)
  | '\\' :: r => Escape.read? m r
  | c :: r => some (.literal c false, r)
  | [] => none

/-- What follows a member, which is an item or a range of two. A hyphen makes a range unless
it is the last member or the first sign of a combination. -/
def member? (m : Mode) (cs : List Char) : Option (List Char) := do
  let (low, r) ← item? m cs
  let rest := m.skip r
  let last ← match rest with
    | '-' :: s =>
      if m.ahead? s = some ']' ∨ m.ahead? s = some '-' then some none
      else (item? m (m.skip s)).map some
    | _ => some none
  match low, last with
  | _, none => if low.fitsClass m then some rest else none
  | .literal a _, some (.literal b isByte, r) =>
    if a ≤ b ∧ low.fitsClass m ∧ (Escape.literal b isByte).fitsClass m then some r else none
  | _, some _ => none

/-! ### Classes -/

/-- Hyphens at the beginning of a class, which are members. -/
def hyphens (m : Mode) : Nat → Bracket → List Char → Bracket × List Char
  | fuel + 1, b, '-' :: r => hyphens m fuel (b.add 0) (m.skip r)
  | _, b, cs => (b, cs)

/-- The beginning of a class after its bracket: perhaps a caret, then hyphens, or else a
closing bracket, that stand for themselves. Among bytes the class of all others is not
supported. -/
def start? (m : Mode) (cs : List Char) : Option (Bracket × List Char) :=
  let (isNegated, cs) := match m.skip cs with
    | '^' :: r => (true, m.skip r)
    | r => (false, r)
  let (b, cs) := hyphens m cs.length ⟨none, []⟩ cs
  let (b, cs) := match b.members, cs with
    | [], ']' :: r => (b.add 0, r)
    | _, _ => (b, cs)
  if (isNegated ∧ !m.isUnicode) ∨ (b.members ≠ [] ∧ !(Escape.literal '-' false).fitsClass m) then
    none
  else some (b, cs)

/-- How deep a class is nested, and what follows it. `outer` are the classes that are open
around the one that is read. -/
def readFrom? (m : Mode) : Nat → List Bracket → Bracket → List Char → Option (Nat × List Char)
  | 0, _, _, _ => none
  | fuel + 1, outer, b, cs =>
    match m.skip cs with
    | [] => none
    | ']' :: r =>
      match outer with
      | [] => some (1 + b.nesting, r)
      | o :: outer => readFrom? m fuel outer (o.add (1 + b.nesting)) r
    | '[' :: r =>
      match named? r with
      | some (isNegated, r) =>
        -- a named class is made of characters, and among bytes all others are no text
        if (if m.isUnicode then m.ignoresCase else isNegated) then none
        else readFrom? m fuel outer (b.add 0) r
      | none =>
        match start? m r with
        | some (inner, r) => readFrom? m fuel (b :: outer) inner r
        | none => none
    | '&' :: '&' :: r => readFrom? m fuel outer b.combined r
    | '-' :: '-' :: r => readFrom? m fuel outer b.combined r
    | '~' :: '~' :: r => readFrom? m fuel outer b.combined r
    | cs =>
      match member? m cs with
      | some r => readFrom? m fuel outer (b.add 0) r
      | none => none

/-- How deep a class is nested, and what follows it. The text stands after the opening
bracket. -/
def read? (m : Mode) (cs : List Char) : Option (Nat × List Char) :=
  (start? m cs).bind fun (b, r) => readFrom? m (r.length + 1) [] b r

end Bracket

end Courier.Diagnostics.Pattern
