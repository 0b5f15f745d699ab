import Courier.Url.Coding

/-!
# The segments of an address

The path of an address is a way through folders (`UrlReader.Trail`): a segment goes one
step down, `.` stays where it is, and `..` goes one step up, in any percent coding of the
dots.

A **drive letter** – a letter and a colon, or a letter and a bar – is as high as one can
get: no `..` leads out of it, at whatever place of whatever path it stands
(`UrlReader.isRoot`). At the first place of a local path, a drive letter is written with a
colon and takes the place of the host. If a tab or a line break sets it apart from more of
its segment, it is a segment of its own (`UrlReader.apart?`); everywhere else, tabs and
line breaks mean nothing.
-/

namespace Courier.UrlReader

/-- A tab or a line break. -/
def isBreak (c : Char) : Bool := c == '\t' || c == '\n' || c == '\r'

/-- A text without its tabs and line breaks. -/
def solid (cs : List Char) : List Char := cs.filter (!isBreak ·)

/-- Whether a character separates segments. -/
def isSlash (special : Bool) (c : Char) : Bool := c == '/' || (special && c == '\\')

/-- Whether a segment stands for the segment itself. -/
def isDot (s : List Char) : Bool :=
  ["." , "%2e"].contains (String.ofList (s.map Char.toLower))

/-- Whether a segment stands for the segment above. -/
def isDoubleDot (s : List Char) : Bool :=
  ["..", ".%2e", "%2e.", "%2e%2e"].contains (String.ofList (s.map Char.toLower))

/-- A segment that begins with a drive letter, followed by nothing or by a backslash that
does not separate segments. -/
def isRoot : List Char → Bool
  | c :: d :: r => c.isAlpha && (d == ':' || d == '|') && (r.isEmpty || r.head? == some '\\')
  | _ => false

/-- A drive letter. -/
def isDrive (s : List Char) : Bool := s.length == 2 && isRoot s

/-- A drive letter with a colon and the rest of its segment, if a tab or a line break sets
them apart. -/
def apart? (s : List Char) : Option (List Char × List Char) :=
  match s.dropWhile isBreak with
  | c :: r =>
    match r.dropWhile isBreak with
    | ':' :: b :: r =>
      if c.isAlpha ∧ isBreak b ∧ solid r ≠ [] then some ([c, ':'], solid r) else none
    | _ => none
  | [] => none

/-- The way that a path has gone so far. -/
structure Trail where
  /-- The segments from the first on, coded. -/
  segments : List (List Char)
  /-- Whether it began with a drive letter in place of a host. -/
  onDrive : Bool

namespace Trail

/-- The way before its first step. -/
def start : Trail := ⟨[], false⟩

/-- One step up. -/
def up (t : Trail) : Trail :=
  match t.segments.getLast? with
  | some s => if isRoot s then t else { t with segments := t.segments.dropLast }
  | none => t

/-- One step down. -/
def down (s : List Char) (t : Trail) : Trail := { t with segments := t.segments ++ [s] }

/-- The step that a segment stands for; `last` says that no slash follows it. A path that
ends with dots ends in an empty segment. -/
def step (file last : Bool) (t : Trail) (s : List Char) : Trail :=
  let coded := UrlCoding.encode UrlCoding.path
  let written := coded (solid s)
  let close (t : Trail) : Trail := if last then t.down [] else t
  let isFirst := file && t.segments.isEmpty
  match if isFirst then apart? s else none with
  | some (drive, rest) => (t.down drive).down (coded rest)
  | none =>
    if isDoubleDot written then close t.up
    else if isDot written then close t
    else if isFirst && isDrive written then ⟨[[written.headD 'c', ':']], true⟩
    else t.down written

/-- The steps of all segments in turn. -/
def walk (file : Bool) (t : Trail) : List (List Char) → Trail
  | [] => t
  | [s] => step file true t s
  | s :: rest => walk file (step file false t s) rest

/-- The way of a path that is written with slashes between its segments. -/
def ofPath (special file : Bool) (cs : List Char) : Trail :=
  walk file start (cs.splitOnP (isSlash special))

/-- The segments as texts. -/
def texts (t : Trail) : List String := t.segments.map String.ofList

end Trail

end Courier.UrlReader
