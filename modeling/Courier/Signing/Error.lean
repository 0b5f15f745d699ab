import Courier.Headers

/-!
# Why a request cannot be signed
-/

namespace Courier

/-- Why a request cannot be signed. -/
inductive SigningError where
  /-- The address has no host to sign. -/
  | missingHost
  /-- The date header is too short to hold a date. -/
  | badTimestamp
  /-- A value that signing would write cannot stand in a header. -/
  | invalidValue (name : HeaderName)
deriving DecidableEq

/-- The message of an error. -/
def SigningError.message : SigningError → String
  | .missingHost => "request url has no host"
  | .badTimestamp => "x-date header is not a signing timestamp"
  | .invalidValue name => "invalid header value for " ++ name.text

namespace Headers

/-- A text written as the value of a name in place of all it had; an error if the text
cannot stand in a header, and then nothing is written. -/
def write (h : Headers) (n : HeaderName) (s : String) : Headers × Except SigningError Unit :=
  match HeaderValue.ofText? s with
  | some v => (h.insert n v, .ok ())
  | none => (h, .error (.invalidValue n))

/-- Writing leaves all other names, also where it fails. -/
theorem values_write_of_ne {h : Headers} {n m : HeaderName} {s : String} (hm : m ≠ n) :
    (h.write n s).1.values m = h.values m := by
  unfold write
  split
  · exact h.values_insert_of_ne _ hm
  · rfl

end Headers

end Courier
