import Courier.Table
import Courier.Text.Piece

/-!
# Tags

A series is told apart by its tags. A tag is a key and a value with a colon between them.
The collector gives three characters a meaning of their own, so they are replaced by words
in the value (`Tag.escape`), one after the other.

`Tag.parse` reads tags back: what stands before the **first** colon is the key. A text
without a colon is no tag, and of several tags with one key the last counts.
-/

namespace Courier.Tag

/-- A text with a word in place of each occurrence of a character. -/
def replaced (c : Char) (word s : String) : String :=
  String.ofList (s.toList.flatMap fun x => if x = c then word.toList else [x])

/-- A value without the characters that have a meaning to the collector. -/
def escape (value : String) : String :=
  replaced '=' "-eq-" (replaced '&' "-and-" (replaced '?' "-qu-" value))

/-- A tag. -/
def render (key value : String) : String := key ++ ":" ++ escape value

/-- The keys and values of tags. -/
def parse (tags : List String) : Table String :=
  Table.ofList (tags.filterMap (splitAtFirst? ':'))

end Courier.Tag
