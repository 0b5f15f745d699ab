import Courier.Settings.Fields
import Courier.Settings.Validation
import Courier.Text.Utf8
import Courier.Toml.Reader

/-!
# Settings files

`Settings.parse` reads settings from the text of a file and checks them;
`Settings.ofFile` does the same for the bytes of a file, or for what the system says if
there is no such file. Each can fail for a reason of its own (`Courier.SettingsError`).
-/

namespace Courier

/-- Why there are no settings. -/
inductive SettingsError where
  /-- The file could not be read. -/
  | unreadable (path reason : String)
  /-- The text is malformed, or a value is of the wrong kind. -/
  | malformed
  /-- What is said is not valid. -/
  | invalid (issues : List Issue)
deriving DecidableEq

/-- The message of an error. -/
def SettingsError.message : SettingsError → String
  | .unreadable path reason => "IO error reading " ++ path ++ ": " ++ reason
  | .malformed => "Parse error: malformed settings"
  | .invalid issues => "Validation failed: " ++ ", ".intercalate (issues.map Issue.text)

namespace Settings

/-- Settings, if nothing is wrong with them. -/
def check (s : Settings) : Except SettingsError Settings :=
  if s.issues.isEmpty then .ok s else .error (.invalid s.issues)

/-- The settings that the text of a file gives. -/
def parse (text : String) : Except SettingsError Settings :=
  match Toml.read? text >>= ofJson? false with
  | some s => s.check
  | none => .error .malformed

/-- The settings in a file, given its bytes or the reason why there are none. -/
def ofFile (path : String) (content : Except String Bytes) : Except SettingsError Settings :=
  match content with
  | .error reason => .error (.unreadable path reason)
  | .ok bytes =>
    match Utf8.decode? bytes with
    | some text => parse text
    | none => .error (.unreadable path "stream did not contain valid UTF-8")

end Settings

end Courier
