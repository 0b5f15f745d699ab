import Courier.Url.Host

/-!
# Addresses

An address (`Courier.Url`) in its parts, and the one text that stands for it
(`Url.text`). An address has an **authority** – host, port, user – or it has none; its
path is a list of segments, or opaque text if the address has neither an authority nor
a path that begins with a slash.

The schemes with a server of their own (`Url.isSpecial`) have default ports, which are
never written (`Url.defaultPort?`).
-/

namespace Courier

/-- The path of an address. -/
inductive UrlPath where
  /-- Text that is not divided into segments. -/
  | opaqueText (s : String)
  | segments (parts : List String)
deriving DecidableEq, Inhabited

/-- An address in its parts. -/
structure Url where
  scheme : String
  username : String
  password : String
  /-- The host, `none` for an address without an authority. -/
  host : Option Host
  /-- The port, `none` for the default port of the scheme. -/
  port : Option Nat
  path : UrlPath
  query : Option String
  fragment : Option String
deriving DecidableEq, Inhabited

namespace Url

/-- The default port of a scheme. -/
def defaultPort? (scheme : String) : Option Nat :=
  match scheme with
  | "http" => some 80
  | "ws" => some 80
  | "https" => some 443
  | "wss" => some 443
  | "ftp" => some 21
  | _ => none

/-- The scheme of local files. -/
def isFile (scheme : String) : Bool := scheme == "file"

/-- The schemes whose addresses are divided into host and path whatever slashes are
used. -/
def isSpecial (scheme : String) : Bool := (defaultPort? scheme).isSome || isFile scheme

/-- The text of a path. -/
def pathText (u : Url) : String :=
  match u.path with
  | .opaqueText s => s
  | .segments parts => String.join (parts.map ("/" ++ ·))

/-- The text of the host; an empty host counts as none. -/
def hostText? (u : Url) : Option String :=
  match u.host with
  | some h => if h.text = "" then none else some h.text
  | none => none

/-- Host and port as they stand in the address. -/
def hostAndPort? (u : Url) : Option String :=
  u.hostText?.map fun h =>
    match u.port with
    | some p => h ++ ":" ++ toString p
    | none => h

/-- User name and password with the sign that ends them, if there are any. -/
def userText (u : Url) : String :=
  if u.username = "" ∧ u.password = "" then ""
  else u.username ++ (if u.password = "" then "" else ":" ++ u.password) ++ "@"

/-- Everything between scheme and path. Without an authority, a path that begins with
two slashes is kept apart by `/.`, so that it is not read as an authority. -/
def authorityText (u : Url) : String :=
  match u.host with
  | some h =>
    "//" ++ u.userText ++ h.text ++
      (match u.port with
      | some p => ":" ++ toString p
      | none => "")
  | none => if startsWith u.pathText "//" then "/." else ""

/-- The address without its fragment, as it is asked for. -/
def textWithoutFragment (u : Url) : String :=
  u.scheme ++ ":" ++ u.authorityText ++ u.pathText ++
    (match u.query with
    | some q => "?" ++ q
    | none => "")

/-- **The text of an address.** -/
def text (u : Url) : String :=
  u.textWithoutFragment ++
    (match u.fragment with
    | some f => "#" ++ f
    | none => "")

end Url

end Courier
