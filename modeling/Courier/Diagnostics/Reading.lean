import Courier.Diagnostics.Directive
import Courier.Text.Blank
import Courier.Text.Letter

/-!
# Reading a directive

A directive is written `target[span{field}]=level`, where every part but the level or the
target may be missing: a word alone is a level, or else a target of which everything is
written (`Directive.read?`).

White space around a directive counts as no part of it, but only to find out where its
parts are: these are cut out of the text as it stands, at the places counted without the
white space in front (`Layout.cut?`). White space in front of a directive with several
parts therefore spoils them, and white space after a level is part of the level.
-/

namespace Courier.Diagnostics.Directive

/-- Whether a directive may begin with a character. -/
def isFirst (c : Char) : Bool :=
  c == '-' || c == ':' || c == '_' || Letter.isLetterOrNumber c

/-- The characters up to the next of some marks: how many bytes they have, and what is left
from the mark on. -/
def upTo (isMark : Char → Bool) (cs : List Char) : Nat × List Char :=
  let (before, rest) := cs.span (!isMark ·)
  ((before.map Char.utf8Size).foldl (· + ·) 0, rest)

/-- The bytes of a text from one place up to another. -/
def cut? (s : String) (start stop : Nat) : Option String :=
  dropBytes? start s >>= takeBytes? (stop - start)

/-- The directive with the level that begins at a place. No level at all is the level of
everything. -/
def withLevel? (s : String) (start : Nat) (d : Directive) : Option Directive := do
  let word ← dropBytes? start s
  if word = "" then some { d with level := .trace }
  else (Level.read? word).map fun l => { d with level := l }

/-- What follows the brackets of a directive: nothing, or a level. -/
def afterBrackets? (s : String) (place : Nat) (d : Directive) : List Char → Option Directive
  | [] => some d
  | c :: _ => if c = '=' then withLevel? s (place + 1) d else none

/-- The brackets of a directive, with the span and the field between them. -/
def brackets? (s : String) (start : Nat) (d : Directive) (cs : List Char) : Option Directive := do
  let (size, rest) := upTo (fun c => c == ']' || c == '\x7b') cs
  let stop := start + size
  let span ← cut? s start stop
  match rest with
  | ']' :: r => afterBrackets? s (stop + 1) { d with span := some span } r
  | '\x7b' :: r =>
    let (size, rest) := upTo (· == '\x7d') r
    let field ← cut? s (stop + 1) (stop + 1 + size)
    match rest with
    | '\x7d' :: ']' :: r =>
      if field = "" then none
      else do
        let test ← FieldTest.read? field
        afterBrackets? s (stop + size + 3)
          { d with span := if span = "" then none else some span, field := some test } r
    | _ => none
  | _ => none

/-- **The directive that a text spells.** -/
def read? (s : String) : Option Directive :=
  match Blank.trimChars s.toList with
  | [] => none
  | '[' :: r => brackets? s 1 {} r
  | c :: r =>
    if !isFirst c then none
    else
      let (size, rest) := upTo (fun c => c == '=' || c == '[') (c :: r)
      match rest with
      | [] =>
        some (match Level.read? s with
        | some level => { level := level }
        | none => { target := some s })
      | mark :: rest => do
        let d : Directive := { target := some (← cut? s 0 size) }
        if mark = '=' then withLevel? s (size + 1) d else brackets? s (size + 1) d rest

end Courier.Diagnostics.Directive
