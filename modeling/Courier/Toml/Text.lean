import Courier.Text.Hex

/-!
# The texts of a settings file

Settings files are TOML. This file reads what stands between quotes, in its four forms:
basic or literal, on one line or several. In a basic text a backslash introduces an
escape; on several lines, a backslash at the end of a line also takes away the line
break and all white space after it. A literal text has no escapes.

Each reader takes the text after the opening quotes and returns the value and what
follows the closing ones. A line break is a line feed, with or without a carriage return
before it, and counts as a line feed in the value.
-/

namespace Courier.Toml

/-- A line break at the front of a text. -/
def newline? : List Char → Option (List Char)
  | '\n' :: r => some r
  | '\r' :: '\n' :: r => some r
  | _ => none

/-- Blanks that do not end a line. -/
def isSpace (c : Char) : Bool := c == ' ' || c == '\t'

/-- A text without spaces and tabs at its beginning. -/
def skipSpaces (cs : List Char) : List Char := cs.dropWhile isSpace

/-- The characters that stand for themselves between quotes and in comments: no control
of ASCII but the tab. -/
def isTextChar (c : Char) : Bool := c == '\t' || (0x20 ≤ c.toNat && c.toNat != 0x7F)

/-- A text without the comment at its beginning. -/
def skipComment : List Char → List Char
  | '#' :: r => r.dropWhile isTextChar
  | cs => cs

/-- The value of `n` hexadecimal digits at the front of a text. -/
def hexDigits? : Nat → Nat → List Char → Option (Nat × List Char)
  | 0, value, cs => some (value, cs)
  | _ + 1, _, [] => none
  | n + 1, value, c :: cs => do
    let d ← Hex.value? c.toNat
    hexDigits? n (value * 16 + d) cs

/-- The character with a code, if there is one. -/
def scalar? (n : Nat) : Option Char :=
  if h : n.isValidChar then some (Char.ofNatAux n h) else none

/-- The character that an escape stands for; the text begins after the backslash. -/
def escape? : List Char → Option (Char × List Char)
  | 'b' :: r => some ('\x08', r)
  | 't' :: r => some ('\t', r)
  | 'n' :: r => some ('\n', r)
  | 'f' :: r => some ('\x0c', r)
  | 'r' :: r => some ('\r', r)
  | '"' :: r => some ('"', r)
  | '\\' :: r => some ('\\', r)
  | 'u' :: r => do
    let (n, r) ← hexDigits? 4 0 r
    let c ← scalar? n
    some (c, r)
  | 'U' :: r => do
    let (n, r) ← hexDigits? 8 0 r
    let c ← scalar? n
    some (c, r)
  | _ => none

/-- A basic text on one line, after its opening quote. `fuel` bounds its length. -/
def basic? : Nat → List Char → List Char → Option (String × List Char)
  | 0, _, _ => none
  | _ + 1, _, [] => none
  | fuel + 1, acc, c :: r =>
    if c = '"' then some (String.ofList acc.reverse, r)
    else if c = '\\' then do
      let (x, r) ← escape? r
      basic? fuel (x :: acc) r
    else if isTextChar c then basic? fuel (c :: acc) r
    else none

/-- A literal text on one line, after its opening quote. -/
def literal? (cs : List Char) : Option (String × List Char) :=
  match cs.span fun c => isTextChar c && c != '\'' with
  | (s, '\'' :: r) => some (String.ofList s, r)
  | _ => none

/-- The end of a text on several lines: three quotes, with up to two more before them
that belong to the text. -/
def closing? (quote : Char) (cs : List Char) : Option (List Char × List Char) :=
  let quotes := cs.takeWhile (· = quote)
  if 3 ≤ quotes.length then
    let own := min (quotes.length - 3) 2
    some (List.replicate own quote, cs.drop (own + 3))
  else none

/-- What a backslash at the end of a line takes away: the line break, and all breaks and
blanks after it. -/
def continued? (cs : List Char) : Option (List Char) :=
  (newline? (skipSpaces cs)).map fun r => r.dropWhile fun c => isSpace c || c == '\n' || c == '\r'

/-- Whether every carriage return is followed by a line feed. -/
def wellBroken : List Char → Bool
  | '\r' :: '\n' :: r => wellBroken r
  | '\r' :: _ => false
  | _ :: r => wellBroken r
  | [] => true

/-- A basic text on several lines. -/
def basicLines? : Nat → List Char → List Char → Option (String × List Char)
  | 0, _, _ => none
  | _ + 1, _, [] => none
  | fuel + 1, acc, c :: r =>
    match closing? '"' (c :: r) with
    | some (own, r) => some (String.ofList (acc.reverse ++ own), r)
    | none =>
      match newline? (c :: r) with
      | some r => basicLines? fuel ('\n' :: acc) r
      | none =>
        if c = '\\' then
          match continued? r with
          | some rest =>
            if wellBroken (r.take (r.length - rest.length)) then basicLines? fuel acc rest else none
          | none => do
            let (x, r) ← escape? r
            basicLines? fuel (x :: acc) r
        else if isTextChar c then basicLines? fuel (c :: acc) r
        else none

/-- A literal text on several lines. -/
def literalLines? : Nat → List Char → List Char → Option (String × List Char)
  | 0, _, _ => none
  | _ + 1, _, [] => none
  | fuel + 1, acc, c :: r =>
    match closing? '\'' (c :: r) with
    | some (own, r) => some (String.ofList (acc.reverse ++ own), r)
    | none =>
      match newline? (c :: r) with
      | some r => literalLines? fuel ('\n' :: acc) r
      | none => if isTextChar c then literalLines? fuel (c :: acc) r else none

/-- A text on several lines without the line break right after its opening quotes. -/
def withoutFirstBreak (cs : List Char) : List Char := (newline? cs).getD cs

/-- A text in any of the four forms, with its quotes. -/
def text? : List Char → Option (String × List Char)
  | '"' :: '"' :: '"' :: r => basicLines? (r.length + 1) [] (withoutFirstBreak r)
  | '\'' :: '\'' :: '\'' :: r => literalLines? (r.length + 1) [] (withoutFirstBreak r)
  | '"' :: r => basic? (r.length + 1) [] r
  | '\'' :: r => literal? r
  | _ => none

/-- Whether a character may stand in a key without quotes. -/
def isBareKeyChar (c : Char) : Bool := c.isAlphanum || c == '-' || c == '_'

/-- One part of a key, in quotes on one line or bare. -/
def keyPart? : List Char → Option (String × List Char)
  | '"' :: r => basic? (r.length + 1) [] r
  | '\'' :: r => literal? r
  | cs =>
    match cs.span isBareKeyChar with
    | ([], _) => none
    | (k, r) => some (String.ofList k, r)

/-- A key: parts with dots between them, and blanks around all of them. -/
def key? : Nat → List Char → Option (List String × List Char)
  | 0, _ => none
  | fuel + 1, cs => do
    let (k, r) ← keyPart? (skipSpaces cs)
    match skipSpaces r with
    | '.' :: r =>
      let (ks, r) ← key? fuel r
      some (k :: ks, r)
    | r => some ([k], r)

end Courier.Toml
