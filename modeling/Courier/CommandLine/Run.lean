import Courier.Client.Basic
import Courier.CommandLine.Arguments

/-!
# Running a command

`CommandLine.run` does what the arguments ask for and says what to print and how to exit:
with zero if all went well, with two if the arguments make no sense, and with one after any
other failure.
-/

namespace Courier.CommandLine

/-- What the program prints and how it exits. -/
structure Ran where
  exitCode : Nat
  out : String
  error : String
deriving DecidableEq, Inhabited

/-- A run that went well. -/
def printed (out : String) : Ran := ⟨0, out, ""⟩

/-- A run that failed. -/
def failed (message : String) : Ran := ⟨1, "", "Error: " ++ message ++ "\n"⟩

/-- A text filled up with spaces. -/
def padded (width : Nat) (s : String) : String :=
  s ++ String.ofList (List.replicate (width - s.length) ' ')

/-- The hosts of a path in a line. -/
def hostsLine (path : String) (hosts : List String) : String :=
  padded 24 path ++ " " ++ ", ".intercalate hosts

/-- The hosts of every path. -/
def hostsText (m : HostMap) : String := lines (m.paths.entries.map fun e => hostsLine e.1 e.2)

variable {m : Type → Type} [Monad m] [Outside m]

/-- Ping a host. -/
def runPing (s : Settings) (host : String) (timeout : Nat) : m Ran := do
  let r ← (s.prober timeout).ping host
  return printed (lines [host ++ " " ++ if r.isHealthy then "healthy" else "unhealthy"])

/-- Something done with a client, which is shut down afterwards. -/
def withClient (s : Settings) (f : StateT (Client m) m Ran) : m Ran := do
  match ← Client.build s none 0 with
  | .error e => return failed e.message
  | .ok c =>
    let work : StateT (Client m) m Ran := do
      let r ← f
      Client.shutDown
      return r
    work.run' c

/-- Show the hosts of every path. -/
def runHosts (s : Settings) : m Ran :=
  withClient s do
    let c ← get
    return printed (hostsText c.upkeep.directory.current)

/-- Make a call and show the reply. -/
def runCall (s : Settings) (path body : String) (timeout : Option Nat) : m Ran :=
  match Json.read? (utf8 body) with
  | none => return failed "the request body is not JSON"
  | some j =>
    withClient s do
      let r ← Client.callJson path (Caller.bodyOf j) { timeout := timeout.map (1000 * ·) }
      match r with
      | .ok reply => return printed (lines [reply.pretty])
      | .error e => return failed e.message

/-- A command with the settings in a file. -/
def runCommand (load : String → m (Except SettingsError Settings)) (i : Invocation) : m Ran := do
  match ← load i.settingsFile with
  | .error e => return failed e.message
  | .ok s =>
    match i.command with
    | .hosts => runHosts s
    | .ping host timeout => runPing s host timeout
    | .call path body timeout => runCall s path body timeout

/-- **What the arguments ask for**, given how settings are loaded from a file. -/
def run (load : String → m (Except SettingsError Settings)) (args : List String) : m Ran :=
  match read args with
  | .help text => return printed text
  | .misuse reason => return ⟨2, "", "error: " ++ reason ++ "\n"⟩
  | .run i => runCommand load i

end Courier.CommandLine
