import Courier.Exchange.Basic
import Courier.Text.Piece

/-!
# Why a call fails

Each error names the address that was called. A fault of the connection is a timeout if the
time of the call was over, or if it is called one (`CallError.ofFault`).
-/

namespace Courier

/-- Why a call fails. -/
inductive CallError where
  /-- The time given to the call is over. -/
  | timeout (url : String)
  /-- The connection could not be made or broke. -/
  | network (url reason : String)
  /-- The reply has another status than 200. The body is its text, if it has one. -/
  | status (url : String) (code : Nat) (body : Option String)
  /-- The body of the reply cannot be decoded. -/
  | encoding (url message : String)
  /-- A body cannot be written or read. -/
  | serialization (url reason : String)
  /-- The request cannot be made or signed. -/
  | invalidRequest (url message : String)
deriving DecidableEq, Inhabited

namespace CallError

/-- The word that marks faults of the connection. -/
def netMark : String := "[netErr]"

/-- The message of an error. -/
def message : CallError → String
  | .timeout url => netMark ++ " timeout calling " ++ url
  | .network url reason => netMark ++ " network error calling " ++ url ++ ": " ++ reason
  | .status url code _ => "HTTP " ++ toString code ++ " calling " ++ url
  | .encoding url message => "encoding error calling " ++ url ++ ": " ++ message
  | .serialization url reason => "serialization error calling " ++ url ++ ": " ++ reason
  | .invalidRequest url message => "invalid request for " ++ url ++ ": " ++ message

/-- The error for a fault. -/
def ofFault (url : String) (f : Fault) : CallError :=
  match f with
  | .timedOut => .timeout url
  | .broken reason =>
    if containsText (lowercase reason) "timeout" then .timeout url else .network url reason

/-- Whether the time of the call was over. -/
def isTimeout : CallError → Bool
  | .timeout _ => true
  | _ => false

/-- Whether the connection failed. -/
def isNetError : CallError → Bool
  | .timeout _ => true
  | .network _ _ => true
  | _ => false

/-- The status of the reply, if the error is about it. -/
def statusCode? : CallError → Option Nat
  | .status _ code _ => some code
  | _ => none

/-- The word under which an error is counted. -/
def countedAs : CallError → String
  | .timeout _ => "request_timeout"
  | .network _ _ => "request_occur_err"
  | .status _ _ _ => "rsp_status_not_ok"
  | .encoding _ _ => "decompress_response_fail"
  | .serialization _ _ => "serialize_fail"
  | .invalidRequest _ _ => "build_request_fail"

end CallError

end Courier
