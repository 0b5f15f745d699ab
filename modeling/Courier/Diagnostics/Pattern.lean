import Courier.Diagnostics.Pattern.Bracket
import Courier.Text.Letter

/-!
# Patterns

A **pattern** is a regular expression with which the written value of a field is compared.
Here only its form matters (`Pattern.isWellFormed`): groups are closed and have different
names, something stands in front of every `*`, `+` and `?`, all that is written is supported,
and nothing is nested deeper than 250 levels. A level is made by a group, a repetition, a
class, by several parts in a row and by several branches.

A pattern stands in a place where no comma, no equals sign and no closing brace can occur.
So there are no counted repetitions, whose opening brace would stay open, and no codes in
braces.
-/

namespace Courier.Diagnostics.Pattern

/-- How deep a pattern may be nested. -/
def maxNesting : Nat := 250

/-! ### Groups -/

/-- A group that is open, or the whole pattern: what has been read of it. -/
structure Group where
  /-- The mode of what follows in it. -/
  mode : Mode := {}
  /-- How deep its finished branches are nested. -/
  branches : List Nat := []
  /-- How deep the parts of the last branch are nested, the last part first; `none` is a
  part that sets the mode and cannot be repeated. -/
  parts : List (Option Nat) := []
deriving DecidableEq, Inhabited

namespace Group

/-- How deep the last branch is nested. -/
def branch (g : Group) : Nat := joined (g.parts.map (·.getD 0))

/-- How deep what has been read of a group is nested. -/
def nesting (g : Group) : Nat := joined (g.branch :: g.branches)

/-- One more part. -/
def add (g : Group) (nesting : Nat) : Group := { g with parts := some nesting :: g.parts }

/-- The beginning of one more branch. -/
def split (g : Group) : Group := { g with branches := g.branch :: g.branches, parts := [] }

/-- The last part repeated, if there is one. -/
def repeat? (g : Group) : Option Group :=
  match g.parts with
  | some d :: rest => some { g with parts := some (d + 1) :: rest }
  | _ => none

end Group

/-- What an opening bracket begins. -/
inductive Opening where
  /-- A group of a mode, perhaps with a name. -/
  | group (mode : Mode) (name : Option (List Char))
  /-- No group: a mode for what follows. -/
  | setting (mode : Mode)
deriving DecidableEq, Inhabited

/-- Whether a character may stand in the name of a group. -/
def isNameChar (c : Char) : Bool := Letter.isLetterOrNumber c || "_.[]".toList.contains c

/-- A group with a name, at the name. -/
def named? (m : Mode) (cs : List Char) : Option (Opening × List Char) :=
  match cs.span (· != '>') with
  | (c :: name, _ :: r) =>
    if (Letter.isLetter c ∨ c = '_') ∧ name.all isNameChar then some (.group m (c :: name), r)
    else none
  | _ => none

/-- What an opening bracket begins, and what follows its name or flags. -/
def opening? (m : Mode) (cs : List Char) : Option (Opening × List Char) :=
  match m.skip cs with
  | '?' :: 'P' :: '<' :: r => named? m r
  | '?' :: '<' :: r => named? m r
  | '?' :: r =>
    match r.span fun c => c != ':' && c != ')' with
    | (flags, c :: r) =>
      if !Mode.areFlags flags then none
      else if c = ':' then some (.group (m.set flags) none, r)
      else if flags = [] then none
      else some (.setting (m.set flags), r)
    | _ => none
  | r => some (.group m none, r)

/-! ### Patterns -/

/-- Whether a pattern is well formed from here on. `g` is the innermost group that is open,
`outer` those around it, and `names` the names of groups so far. -/
def isWellFormedFrom : Nat → List (List Char) → List Group → Group → List Char → Bool
  | 0, _, _, _, _ => false
  | fuel + 1, names, outer, g, cs =>
    let go := isWellFormedFrom fuel names outer
    match g.mode.skip cs with
    | [] => outer.isEmpty && g.nesting ≤ maxNesting
    | c :: r =>
      if c = '(' then
        match opening? g.mode r with
        | some (.setting m, r) => go { g with mode := m, parts := none :: g.parts } r
        | some (.group m none, r) => isWellFormedFrom fuel names (g :: outer) { mode := m } r
        | some (.group m (some name), r) =>
          !names.contains name && isWellFormedFrom fuel (name :: names) (g :: outer) { mode := m } r
        | none => false
      else if c = ')' then
        match outer with
        | [] => false
        | o :: outer => isWellFormedFrom fuel names outer (o.add (1 + g.nesting)) r
      else if c = '|' then go g.split r
      else if c = '*' ∨ c = '+' ∨ c = '?' then
        match g.repeat? with
        -- a question mark right after it belongs to the repetition
        | some g => go g (match r with
          | '?' :: r => r
          | _ => r)
        | none => false
      else if c = '\x7b' then false
      else if c = '[' then
        match Bracket.read? g.mode r with
        | some (d, r) => go (g.add d) r
        | none => false
      else if c = '\\' then
        match Escape.read? g.mode r with
        | some (e, r) => e.fits g.mode && go (g.add 0) r
        | none => false
      else if c = '.' then g.mode.isUnicode && go (g.add 0) r
      else if c = '^' ∨ c = '$' then go (g.add 0) r
      else (Escape.literal c false).fits g.mode && go (g.add 0) r

/-- **Whether a text is a pattern.** -/
def isWellFormed (cs : List Char) : Bool := isWellFormedFrom (cs.length + 1) [] [] {} cs

end Courier.Diagnostics.Pattern
