import Courier.Text.Blank

/-!
# How a pattern is read

A pattern can say how what follows in it is to be understood: `(?i)` that letters match in
either case, `(?-u)` that text is bytes, `(?x)` that blanks and comments do not count. What
holds at a place is its **mode** (`Pattern.Mode`); it holds up to the end of the group that
set it.
-/

namespace Courier.Diagnostics.Pattern

/-- How what follows in a pattern is understood. -/
structure Mode where
  /-- Letters match in either case. -/
  ignoresCase : Bool := false
  /-- Text is characters, and not bytes. -/
  isUnicode : Bool := true
  /-- Blanks and comments do not count. -/
  isSpaced : Bool := false
deriving DecidableEq, Inhabited

/-- What follows blanks and comments. A comment begins with a number sign and ends with its
line; `inComment` says that one has begun. -/
def afterBlanks (inComment : Bool) : List Char → List Char
  | [] => []
  | c :: r =>
    if inComment then afterBlanks (c != '\n') r
    else if Blank.isBlankChar c then afterBlanks false r
    else if c = '#' then afterBlanks true r
    else c :: r

namespace Mode

/-- What counts from here on. -/
def skip (m : Mode) (cs : List Char) : List Char := if m.isSpaced then afterBlanks false cs else cs

/-- The next character that counts. Of a comment only its mark is passed over here, not its
text. -/
def ahead? (m : Mode) (cs : List Char) : Option Char :=
  if m.isSpaced then
    match cs.dropWhile Blank.isBlankChar with
    | '#' :: r => (r.dropWhile Blank.isBlankChar).head?
    | r => r.head?
  else cs.head?

/-- What flags say about one thing: `some true` if its flag is set, `some false` if it is
set behind a hyphen. -/
def said? (flags : List Char) (flag : Char) : Option Bool :=
  if !flags.contains flag then none else some ((flags.takeWhile (· != '-')).contains flag)

/-- The mode that flags lead to. -/
def set (m : Mode) (flags : List Char) : Mode where
  ignoresCase := (said? flags 'i').getD m.ignoresCase
  isUnicode := (said? flags 'u').getD m.isUnicode
  isSpaced := (said? flags 'x').getD m.isSpaced

/-- Whether flags are in order: each at most once, at most one hyphen, and not at the end. -/
def areFlags (flags : List Char) : Bool :=
  flags.all (fun c => "imsUuxR-".toList.contains c) && flags.eraseDups.length == flags.length
    && flags.getLast? != some '-'

end Mode

end Courier.Diagnostics.Pattern
