import Courier.Text.Glyph
import Courier.Text.Hex

/-!
# Quoted text

How a value shows in a diagnostic: a text stands in double quotes, with a backslash
before a quote or a backslash, short codes for the five usual controls, and
`\u{…}` for every other character without a glyph of its own (`Courier.Glyph`).

* `Courier.Quoted.text` – a quoted text;
* `Courier.Quoted.list`, `Courier.Quoted.table` – lists and tables of shown items;
* `Courier.Quoted.record` – a named record with its fields in order.
-/

namespace Courier.Quoted

/-- The written form of one character inside quotes. -/
def char (c : Char) : List Char :=
  if c = '"' then ['\\', '"']
  else if c = '\\' then ['\\', '\\']
  else if c = '\n' then ['\\', 'n']
  else if c = '\r' then ['\\', 'r']
  else if c = '\t' then ['\\', 't']
  else if c = '\x00' then ['\\', '0']
  else if Glyph.isShown c then [c]
  else ['\\', 'u', '\x7b'] ++ Nat.toDigits 16 c.toNat ++ ['\x7d']

/-- A text in quotes. -/
def text (s : String) : String :=
  String.ofList ('"' :: s.toList.flatMap char ++ ['"'])

/-- A truth value. -/
def bool (b : Bool) : String := if b then "true" else "false"

/-- Items in brackets. -/
def list (items : List String) : String :=
  "[" ++ ", ".intercalate items ++ "]"

/-- Keys and items in braces. -/
def table (items : List (String × String)) : String :=
  "\x7b" ++ ", ".intercalate (items.map fun kv => text kv.1 ++ ": " ++ kv.2) ++ "\x7d"

/-- A record: its name, then its fields in braces. -/
def record (name : String) (fields : List (String × String)) : String :=
  name ++ " \x7b " ++ ", ".intercalate (fields.map fun kv => kv.1 ++ ": " ++ kv.2) ++ " \x7d"

end Courier.Quoted
