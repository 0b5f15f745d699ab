import Courier.Toml.Scalar
import Courier.Toml.Tree

/-!
# Reading a settings file

`Toml.read?` reads a whole file: lines that assign a value to a key, and headings that
open a table or the next table of a list. Between the brackets of a list there may be
line breaks and comments; between the braces of a table in one line there may not.
Lists and such tables can be nested 79 deep (`Toml.maxDepth`), and so can the parts of
a key.
-/

namespace Courier.Toml

/-- How deep lists and tables may be nested, and how many parts a key may have. -/
def maxDepth : Nat := 79

/-- A key with its equals sign. -/
def keyAndEquals? (cs : List Char) : Option (List String × List Char) := do
  let (path, r) ← key? (maxDepth + 1) cs
  if maxDepth < path.length then none
  else match r with
  | '=' :: r => some (path, skipSpaces r)
  | _ => none

/-- A text without the blanks, line breaks and comments at its beginning. -/
def skipLines : Nat → List Char → List Char
  | 0, cs => cs
  | fuel + 1, cs =>
    match skipSpaces cs with
    | '#' :: r =>
      match newline? (skipComment ('#' :: r)) with
      | some r => skipLines fuel r
      | none => '#' :: r
    | r =>
      match newline? r with
      | some r => skipLines fuel r
      | none => r

mutual

/-- A value at the front of a text. `depth` is how many more containers may be opened. -/
def value? : Nat → Nat → List Char → Option (Json × List Char)
  | 0, _, _ => none
  | fuel + 1, depth, cs =>
    match cs with
    | '"' :: _ => (text? cs).map fun (s, r) => (.string s, r)
    | '\'' :: _ => (text? cs).map fun (s, r) => (.string s, r)
    | '[' :: r =>
      match depth with
      | 0 => none
      | depth + 1 => items? fuel depth [] r
    | '\x7b' :: r =>
      match depth with
      | 0 => none
      | depth + 1 =>
        match skipSpaces r with
        | '\x7d' :: r => some (.object [], r)
        | r => entries? fuel depth .opened r
    | _ => word? cs

/-- The rest of a list, at an item or the closing bracket. -/
def items? : Nat → Nat → List Json → List Char → Option (Json × List Char)
  | 0, _, _, _ => none
  | fuel + 1, depth, acc, cs =>
    match skipLines (cs.length + 1) cs with
    | ']' :: r => some (.array acc.reverse, r)
    | r => do
      let (j, r) ← value? fuel depth r
      match skipLines (r.length + 1) r with
      | ',' :: r => items? fuel depth (j :: acc) r
      | ']' :: r => some (.array (j :: acc).reverse, r)
      | _ => none

/-- The rest of a table in one line, at a key. -/
def entries? : Nat → Nat → Node → List Char → Option (Json × List Char)
  | 0, _, _, _ => none
  | fuel + 1, depth, table, cs => do
    let (path, r) ← keyAndEquals? cs
    let (j, r) ← value? fuel depth r
    let table ← table.assign? path j
    match skipSpaces r with
    | ',' :: r => entries? fuel depth table r
    | '\x7d' :: r => some (table.toJson, r)
    | _ => none

end

/-- What is left after the end of a line: blanks, perhaps a comment, and a line break or
the end of the file. -/
def lineEnd? (cs : List Char) : Option (List Char) :=
  match skipComment (skipSpaces cs) with
  | [] => some []
  | r => newline? r

/-- A heading, after its first bracket: whether it opens the next table of a list, its
path, and what follows it. -/
def headingLine? (cs : List Char) : Option (Bool × List String × List Char) := do
  let (next, cs) := match cs with
    | '[' :: r => (true, r)
    | _ => (false, cs)
  let (path, r) ← key? (maxDepth + 1) cs
  if maxDepth < path.length then none
  else match next, r with
  | false, ']' :: r => some (false, path, r)
  | true, ']' :: ']' :: r => some (true, path, r)
  | _, _ => none

/-- The lines of a file in turn. `path` is the table that is open. -/
def lines? : Nat → List String → Node → List Char → Option Node
  | 0, _, _, _ => none
  | fuel + 1, path, root, cs =>
    match skipSpaces cs with
    | [] => some root
    | '[' :: r => do
      let (next, path, r) ← headingLine? r
      let root ← root.heading? next path
      let r ← lineEnd? r
      lines? fuel path root r
    | c :: r =>
      if c = '#' ∨ c = '\n' ∨ c = '\r' then do
        let r ← lineEnd? (c :: r)
        lines? fuel path root r
      else do
        let (key, r) ← keyAndEquals? (c :: r)
        let (j, r) ← value? (2 * r.length + 1) maxDepth r
        let root ← root.change? false (Node.assign? key j) path
        let r ← lineEnd? r
        lines? fuel path root r

/-- **The value of a settings file.** A byte order mark at its beginning is ignored. -/
def read? (s : String) : Option Json :=
  let cs := match s.toList with
    | '\uFEFF' :: r => r
    | cs => cs
  (lines? (cs.length + 1) [] .opened cs).map Node.toJson

end Courier.Toml
