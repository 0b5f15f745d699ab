import Courier.Text.Piece

/-!
# Arguments

The program has three commands (`Command`). Before the command stands the file of the
settings; a time limit may stand anywhere after it. What the arguments ask for is a
`Asked`: a command to run, a help text to show, or nothing that makes sense.

Arguments are read from left to right, so of a mistake and a call for help the first
counts. Only a mistake in the name of the settings file is not noticed at once, and what
stands after the command comes before it (`readFrom`).
-/

namespace Courier.CommandLine

/-- What the program does. -/
inductive Command where
  /-- Show the hosts of every path. -/
  | hosts
  /-- Ping a host. -/
  | ping (host : String) (timeout : Nat)
  /-- Make a call and show the reply. -/
  | call (path body : String) (timeout : Option Nat)
deriving DecidableEq, Inhabited

/-- A command and the file of the settings. -/
structure Invocation where
  settingsFile : String
  command : Command
deriving DecidableEq, Inhabited

/-- What arguments ask for. -/
inductive Asked where
  | run (i : Invocation)
  | help (text : String)
  | misuse (reason : String)
deriving DecidableEq, Inhabited

/-- The file of the settings if none is named. -/
def defaultFile : String := "config/client.toml"

/-- How long a ping may take that does not say so, in milliseconds. -/
def defaultPingTimeout : Nat := 300

/-! ### Help -/

/-- Lines with a line feed after each. -/
def lines (l : List String) : String := String.join (l.map (· ++ "\n"))

/-- The help text of the program. -/
def programHelp : String := lines [
  "Diagnostics CLI for the recommendation transport core",
  "",
  "Usage: rec-cli [OPTIONS] <COMMAND>",
  "",
  "Commands:",
  "  hosts  Show the current host ranking for every path",
  "  ping   Probe one host's ping endpoint",
  "  call   Send a signed JSON call and print the response",
  "  help   Print this message or the help of the given subcommand(s)",
  "",
  "Options:",
  "  -c, --config <CONFIG>  Client configuration file (TOML) [default: config/client.toml]",
  "  -h, --help             Print help"]

/-- The help text of the command `hosts`. -/
def hostsHelp : String := lines [
  "Show the current host ranking for every path",
  "",
  "Usage: rec-cli hosts",
  "",
  "Options:",
  "  -h, --help  Print help"]

/-- The help text of the command `ping`. -/
def pingHelp : String := lines [
  "Probe one host's ping endpoint",
  "",
  "Usage: rec-cli ping [OPTIONS] <HOST>",
  "",
  "Arguments:",
  "  <HOST>  ",
  "",
  "Options:",
  "      --timeout-ms <TIMEOUT_MS>  [default: 300]",
  "  -h, --help                     Print help"]

/-- The help text of the command `call`. -/
def callHelp : String := lines [
  "Send a signed JSON call and print the response",
  "",
  "Usage: rec-cli call [OPTIONS] <PATH> <BODY>",
  "",
  "Arguments:",
  "  <PATH>  ",
  "  <BODY>  Request body as JSON",
  "",
  "Options:",
  "      --timeout-ms <TIMEOUT_MS>  ",
  "  -h, --help                     Print help"]

/-- The help text of the command `help`. -/
def helpHelp : String := lines [
  "Print this message or the help of the given subcommand(s)",
  "",
  "Usage: rec-cli help [COMMAND]...",
  "",
  "Arguments:",
  "  [COMMAND]...  Print help for the subcommand(s)"]

/-- What the command `help` asks for. -/
def helpOn : List String → Asked
  | [] => .help programHelp
  | ["hosts"] => .help hostsHelp
  | ["ping"] => .help pingHelp
  | ["call"] => .help callHelp
  | ["help"] => .help helpHelp
  | _ => .misuse "unrecognized subcommand"

/-! ### The arguments of a command -/

/-- A number of 64 bits in decimal digits, after a plus sign if there is one. -/
def number? (s : String) : Option Nat :=
  let digits := match s.toList with
    | '+' :: r => r
    | cs => cs
  if digits = [] ∨ !digits.all (fun c => c.isDigit) then none
  else
    let n := digits.foldl (fun n c => 10 * n + (c.toNat - 48)) 0
    if n < Nat.pow 2 64 then some n else none

/-- Whether an argument is an option and no value. -/
def isOption (arg : String) : Bool := startsWith arg "-" && arg != "-"

/-- What follows a beginning, if a text begins with it. -/
def after? (start s : String) : Option String :=
  if startsWith s start then some (String.ofList (s.toList.drop start.length)) else none

/-- What a command is given. -/
structure Given where
  /-- In order. -/
  values : List String
  timeout : Option Nat
deriving DecidableEq, Inhabited

/-- What a command takes. -/
structure Form where
  /-- How many values there must be. -/
  values : Nat
  hasTimeout : Bool
  help : String

namespace Form

/-- One more value. -/
def addValue? (f : Form) (g : Given) (value : String) : Option Given :=
  if g.values.length < f.values then some { g with values := g.values ++ [value] } else none

/-- The time limit, which may be given once. -/
def addTimeout? (f : Form) (g : Given) (value : String) : Option Given :=
  if f.hasTimeout && g.timeout.isNone then
    (number? value).map fun n => { g with timeout := some n }
  else none

/-- Values only, as they stand. -/
def plainValues? (f : Form) : List String → Given → Option Given
  | [], g => some g
  | v :: rest, g =>
    match f.addValue? g v with
    | some g => plainValues? f rest g
    | none => none

/-- What stands after a command, from left to right. -/
def read (f : Form) : List String → Given → Except Asked Given
  | [], g =>
    if g.values.length = f.values then .ok g else .error (.misuse "a value is missing")
  | arg :: rest, g =>
    let misuse : Except Asked Given := .error (.misuse ("unexpected argument '" ++ arg ++ "'"))
    if arg = "--" then
      match f.plainValues? rest g with
      | some g =>
        if g.values.length = f.values then .ok g else .error (.misuse "a value is missing")
      | none => misuse
    else if arg = "--help" ∨ startsWith arg "-h" then .error (.help f.help)
    else if arg = "--timeout-ms" then
      match rest with
      | v :: rest =>
        if isOption v then misuse
        else
          match f.addTimeout? g v with
          | some g => read f rest g
          | none => misuse
      | [] => misuse
    else
      let added := match after? "--timeout-ms=" arg with
        | some v => f.addTimeout? g v
        | none => if isOption arg then none else f.addValue? g arg
      match added with
      | some g => read f rest g
      | none => misuse

end Form

/-- The command that a word and what stands after it ask for. -/
def command (word : String) (rest : List String) : Except Asked Command :=
  match word with
  | "hosts" => (Form.read ⟨0, false, hostsHelp⟩ rest ⟨[], none⟩).map fun _ => .hosts
  | "ping" => do
    let g ← Form.read ⟨1, true, pingHelp⟩ rest ⟨[], none⟩
    return .ping (g.values.headD "") (g.timeout.getD defaultPingTimeout)
  | "call" => do
    let g ← Form.read ⟨2, true, callHelp⟩ rest ⟨[], none⟩
    return .call (g.values.headD "") (g.values.getD 1 "") g.timeout
  | "help" => .error (helpOn rest)
  | _ => .error (.misuse ("unrecognized subcommand '" ++ word ++ "'"))

/-! ### The arguments of the program -/

/-- The file of the settings that a cluster of short options names: `none` if the next
argument does. -/
def shortFile? (arg : String) : Option (Option String) :=
  match after? "-c" arg with
  | some "" => some none
  | some v => some (some ((after? "=" v).getD v))
  | none => none

/-- The file of the settings when one more name for it is looked at: it may be named once,
and not by an empty text. -/
def named? (file : Option String) (name : String) : Option String :=
  if file.isSome ∨ name = "" then none else some name

/-- The file of the settings when a name that has not been looked at, if there is one, is. -/
def settled? (file unseen : Option String) : Option (Option String) :=
  match unseen with
  | none => some file
  | some name => (named? file name).map some

/-- What arguments ask for, given the file of the settings if it was named before. A name
that is an argument of its own stays `unseen` until the next option, or until the command
has been read. -/
def readFrom : List String → Option String → Option String → Asked
  | [], _, _ => .misuse "a command is missing"
  | arg :: rest, file, unseen =>
    let misuse : Asked := .misuse ("unexpected argument '" ++ arg ++ "'")
    if isOption arg then
      match settled? file unseen with
      | none => misuse
      | some file =>
        if arg = "--help" ∨ startsWith arg "-h" then .help programHelp
        else if arg = "--config" ∨ shortFile? arg = some none then
          match rest with
          | v :: rest => if isOption v then misuse else readFrom rest file (some v)
          | [] => misuse
        else
          match (after? "--config=" arg <|> (shortFile? arg).join) >>= named? file with
          | some file => readFrom rest (some file) none
          | none => misuse
    else
      match command arg rest with
      | .error r => r
      | .ok c =>
        match settled? file unseen with
        | none => misuse
        | some file => .run ⟨file.getD defaultFile, c⟩

/-- **What arguments ask for.** -/
def read (args : List String) : Asked := readFrom args none none

end Courier.CommandLine
