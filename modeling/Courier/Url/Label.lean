import Courier.Text.Direction
import Courier.Text.Joining
import Courier.Text.NormalForm
import Courier.Url.LabelChar
import Courier.Url.Punycode

/-!
# Labels

The name of a host is made of **labels** with dots between them. A label that begins with
`xn--` is written in ASCII and stands for one with characters of all scripts
(`Label.read?`). What it stands for must be a label that could not be written in another
way and does not look like another (`Label.isPlain`), and labels that are written from right
to left must not mix with the others (`Label.areValid`).
-/

namespace Courier.Label

/-! ### One label -/

/-- How long a label may be that is written in ASCII, and how long what it stands for. -/
def maxCode : Nat := 2000

def maxLength : Nat := 1000

/-- The character that keeps letters from being joined. -/
def nonJoiner : Char := '\u200C'

/-- The character that joins letters. -/
def joiner : Char := '\u200D'

/-- The class of marks that cut off the vowel of a letter. -/
def vowelCut : Nat := 9

/-- Whether the two invisible characters that join letters or keep them apart make a
difference where they stand: after a mark that cuts off a vowel, and the second also between
letters that would be joined. `before` is what stands before, last character first. -/
def joinersMatter (before : List Char) : List Char → Bool
  | [] => true
  | c :: r =>
    (if c = joiner ∨ c = nonJoiner then
      match before with
      | [] => false
      | p :: _ =>
        NormalForm.classOf p == vowelCut ||
          (c == nonJoiner && Joining.isJoinedAfter before && Joining.isJoinedBefore r)
    else true) && joinersMatter (c :: before) r

/-- Whether a label of all scripts can be written in one way only. -/
def isPlain (label : List Char) : Bool :=
  label.all LabelChar.isAllowed && isNormal label && !label.head?.any isMark
    && joinersMatter [] label && label.length ≤ maxLength

/-- The label that a label in lower case stands for. -/
def read? (label : List Char) : Option (List Char) :=
  match label with
  | 'x' :: 'n' :: '-' :: '-' :: code =>
    if label.getLast? = some '-' ∨ maxCode < code.length then none
    else (Punycode.decode? code).filter isPlain
  | _ => some label

/-! ### All labels of a name -/

/-- Whether labels do not mix directions, if something is written from right to left. -/
def areClear (labels : List (List Char)) : Bool :=
  let directions := labels.map (·.map Direction.of)
  !directions.any (·.any Direction.isLeftward) || directions.all Direction.areClear

/-- **Whether the labels of a name in lower case can stand in it.** -/
def areValid (labels : List (List Char)) : Bool := (labels.mapM read?).any areClear

end Courier.Label
