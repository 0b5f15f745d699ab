import Courier.Url.Basic
import Courier.Url.Segments

/-!
# Reading an address

`Url.parse` reads an absolute address from a text. White space and controls at the ends
and, but for `UrlReader.apart?`, all tabs and line breaks are ignored. What follows the
scheme is read in one of three ways:

* for the schemes with a server, any number of slashes or backslashes introduces the
  authority (`Url.withAuthority`);
* for `file`, the authority is a host only, and a drive letter begins a path
  (`Url.ofFile`);
* for every other scheme, two slashes introduce the authority, one slash a path, and
  anything else is opaque.

A path is read as the segments that are left when `.` and `..` are followed
(`UrlReader.Trail`).
-/

namespace Courier

namespace UrlReader

/-! ### Cutting the text -/

/-- A text without white space and controls at its ends. -/
def trimmed (s : String) : List Char :=
  let edge (c : Char) : Bool := c.toNat ≤ 0x20
  ((s.toList.dropWhile edge).reverse.dropWhile edge).reverse

/-- The scheme in lower case and what follows its colon. -/
def scheme? (cs : List Char) : Option (String × List Char) :=
  let isSchemeChar (c : Char) : Bool := c.isAlphanum || c == '+' || c == '-' || c == '.'
  match cs with
  | c :: _ =>
    if c.isAlpha then
      match cs.span isSchemeChar with
      | (name, ':' :: rest) => some (String.ofList (name.map Char.toLower), rest)
      | _ => none
    else none
  | [] => none

/-- Whether a character ends an authority. -/
def endsAuthority (special : Bool) (c : Char) : Bool :=
  isSlash special c || c == '?' || c == '#'

/-- A text cut into path, query and fragment. -/
def splitTail (cs : List Char) : List Char × Option (List Char) × Option (List Char) :=
  let (path, rest) := cs.span fun c => c != '?' && c != '#'
  match rest with
  | '?' :: r =>
    match r.span (· != '#') with
    | (q, _ :: f) => (path, some q, some f)
    | (q, []) => (path, some q, none)
  | _ :: f => (path, none, some f)
  | [] => (path, none, none)

/-! ### User, host and port -/

/-- What stands before and after the last occurrence of a character. -/
def splitAtLast? (c : Char) (cs : List Char) : Option (List Char × List Char) :=
  match cs.reverse.span (· != c) with
  | (_, []) => none
  | (after, _ :: before) => some (before.reverse, after.reverse)

/-- User name and password, coded. -/
def user (cs : List Char) : String × String :=
  let (name, rest) := cs.span (· != ':')
  (String.ofList (UrlCoding.encode UrlCoding.userinfo name),
    String.ofList (UrlCoding.encode UrlCoding.userinfo (rest.drop 1)))

/-- The part of an authority that is the host: up to a colon outside brackets. -/
def spanHost : Bool → List Char → List Char × List Char
  | _, [] => ([], [])
  | inside, c :: cs =>
    if c = ':' ∧ !inside then ([], c :: cs)
    else
      let (h, r) := spanHost (if c = '[' then true else if c = ']' then false else inside) cs
      (c :: h, r)

/-- The port after a colon. A port that is the default of the scheme, or not written at
all, is none. What may follow the digits is the start of a path. -/
def port? (scheme : String) (cs : List Char) : Except UrlError (Option Nat × List Char) :=
  let (digits, rest) := cs.span Char.isDigit
  let value := digits.foldl (fun n c => min (n * 10 + (c.toNat - 48)) 65536) 0
  if 65535 < value then .error .invalidPort
  else
    match rest with
    | [] =>
      .ok (if digits = [] ∨ Url.defaultPort? scheme = some value then none else some value, [])
    | c :: _ =>
      if endsAuthority true c then
        .ok (if digits = [] ∨ Url.defaultPort? scheme = some value then none else some value, rest)
      else .error .invalidPort

/-! ### Paths -/

/-- The path that follows an authority. A special scheme always has a path. -/
def pathAfterAuthority (special : Bool) (cs : List Char) : List String :=
  match cs with
  | [] => if special then [""] else []
  | c :: r => (Trail.ofPath special false (if isSlash special c then r else cs)).texts

/-- A local path: slashes at its beginning count as one. -/
def withoutLeadingEmpty (parts : List String) : List String :=
  match parts.dropWhile (· = "") with
  | [] => [""]
  | kept => kept

end UrlReader

open UrlReader

namespace Url

/-- Query and fragment, coded. -/
def withTail (u : Url) (query fragment : Option (List Char)) : Url :=
  let set := if isSpecial u.scheme then UrlCoding.specialQuery else UrlCoding.query
  { u with
    query := query.map fun q => String.ofList (UrlCoding.encode set q)
    fragment := fragment.map fun f => String.ofList (UrlCoding.encode UrlCoding.fragment f) }

/-- An address whose authority begins here. -/
def withAuthority (scheme : String) (cs : List Char) : Except UrlError Url := do
  let special := isSpecial scheme
  let (authority, rest) := cs.span fun c => !endsAuthority special c
  let (userChars, hostChars) :=
    match splitAtLast? '@' authority with
    | some (u, h) => (u, h)
    | none => ([], authority)
  let (username, password) := user userChars
  if hostChars = [] ∧ (username ≠ "" ∨ password ≠ "" ∨ (authority = ['@'] ∧ rest ≠ [])) then
    throw .emptyHost
  let (hostPart, portPart) := spanHost false hostChars
  if hostPart = [] ∧ (special ∨ portPart ≠ []) then throw .emptyHost
  let host ← if special then Host.ofText? hostPart else Host.opaque? hostPart
  let (port, rest) ← match portPart with
    | _ :: p => port? scheme (p ++ rest)
    | [] => pure (none, rest)
  let (pathChars, query, fragment) := splitTail rest
  let parts := pathAfterAuthority special pathChars
  return Url.withTail ⟨scheme, username, password, some host, port, .segments parts, none, none⟩
    query fragment

/-- The host at the beginning of a local address after its two slashes, and the path after
it, without the slash between them. A drive letter is no host; and if there is no host, the
slash belongs to the path. -/
def fileHost (cs : List Char) : Except UrlError (Host × List Char) :=
  let (text, rest) := cs.span fun c => !endsAuthority true c
  let text := solid text
  if isDrive text then .ok (.name "", cs)
  else if text = [] then .ok (.name "", rest)
  else
    match Host.ofText? text with
    | .error e => .error e
    | .ok h =>
      if h = .name "localhost" then .ok (.name "", rest)
      else
        match rest with
        | c :: r => .ok (h, if isSlash true c then r else rest)
        | [] => .ok (h, [])

/-- A local address after its scheme. -/
def ofFile (cs : List Char) : Except UrlError Url := do
  let next (cs : List Char) : Option (List Char) :=
    match cs.dropWhile isBreak with
    | c :: r => if isSlash true c then some r else none
    | [] => none
  let (host, rest) ← match next cs with
    | none => pure (Host.name "", cs)
    | some r =>
      match next r with
      | none => pure (Host.name "", r)
      | some r => fileHost r
  let (pathChars, query, fragment) := splitTail rest
  let trail := Trail.ofPath true true pathChars
  -- a path that begins with a drive is on this machine
  let host := if trail.onDrive then Host.name "" else host
  return Url.withTail ⟨"file", "", "", some host, none, .segments (withoutLeadingEmpty trail.texts),
    none, none⟩ (query.map solid) (fragment.map solid)

/-- An address without an authority. -/
def withoutAuthority (scheme : String) (cs : List Char) : Url :=
  let (pathChars, query, fragment) := splitTail cs
  let path := match pathChars with
    | '/' :: r => UrlPath.segments (Trail.ofPath false false r).texts
    | _ => UrlPath.opaqueText (String.ofList (UrlCoding.encode UrlCoding.control pathChars))
  Url.withTail ⟨scheme, "", "", none, none, path, none, none⟩ query fragment

/-- **The address that a text spells.** -/
def parse (s : String) : Except UrlError Url :=
  let cs := trimmed s
  match scheme? (solid cs) with
  | none => .error .relativeWithoutBase
  | some (scheme, rest) =>
    -- only a local path heeds tabs and line breaks
    if isFile scheme then ofFile ((cs.dropWhile (· != ':')).drop 1)
    -- a scheme with a server of its own needs no slashes, and may have any number
    else if isSpecial scheme then withAuthority scheme (rest.dropWhile (isSlash true))
    else
      match rest with
      | '/' :: '/' :: r => withAuthority scheme r
      | _ => .ok (withoutAuthority scheme rest)

end Url

end Courier
