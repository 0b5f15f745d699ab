import Courier.Gzip.Member
import Courier.Text.Blank
import Courier.Text.Piece

/-!
# The coding of a reply

The header of a reply says how its body is coded. The name of a coding is read without
regard to case and to white space at its ends. Besides plain bodies only `gzip` is known.
-/

namespace Courier

/-- Why a body cannot be decoded. -/
inductive DecodeError where
  | corrupt
  | unsupported (coding : String)
deriving DecidableEq, Inhabited

/-- The message of an error, given what is said of a body that is corrupt. -/
def DecodeError.message (corruption : String) : DecodeError → String
  | .corrupt => "decompress gzip response: " ++ corruption
  | .unsupported coding => "unsupported response content encoding: " ++ coding

/-- **The data in a body** with a coding; without one, the body itself. -/
def decodeBody (coding : Option String) (body : Bytes) : Except DecodeError Bytes :=
  let name := lowercase (trim (coding.getD ""))
  if name = "gzip" then
    match gunzip? body with
    | some data => .ok data
    | none => .error .corrupt
  else if name = "" ∨ name = "identity" then .ok body
  else .error (.unsupported name)

end Courier
