import Courier.CommandLine.Run
import Courier.Exchange.Identifier
import Courier.Exchange.Wire
import Std.Async.DNS
import Std.Async.TCP
import Std.Async.Timer
import Std.Time

/-!
# The program

This module supplies what is outside – sockets, a clock, chance and files – and prints what
a command has to say. It decides nothing: what is sent and what the reply means is said in
`Courier.Wire`, and what a command does in `Courier.CommandLine`.
-/

namespace Courier.Sockets

open Std.Async Std.Net

/-- The port that an address names. -/
def portOf (u : Url) : UInt16 :=
  UInt16.ofNat ((u.port <|> Url.defaultPort? u.scheme).getD 80)

/-- The name that the host of an address is looked up by. -/
def nameOf (u : Url) : String :=
  String.ofList ((u.hostText?.getD "").toList.filter fun c => c ≠ '[' ∧ c ≠ ']')

/-- A port of a machine. -/
def endpoint (port : UInt16) : IPAddr → SocketAddress
  | .v4 a => .v4 ⟨a, port⟩
  | .v6 a => .v6 ⟨a, port⟩

/-- What work gives by a point of time, `none` if it takes longer. -/
def byDeadline [Inhabited α] (deadline : Nat) (work : Async α) : IO (Option α) := do
  let left := deadline - (← IO.monoMsNow)
  (Async.race (some <$> work) (do sleep (.ofNat left); return none)).block

/-- A connection to the first machine that accepts it. -/
def connected (port : UInt16) : List IPAddr → Async TCP.Socket.Client
  | [] => throw (IO.userError "no address accepts the connection")
  | a :: rest => do
    let socket ← TCP.Socket.Client.mk
    try
      socket.connect (endpoint port a)
      return socket
    catch _ => connected port rest

/-- A connection to the host of an address over which a request has been sent. -/
def opened (r : Request) : Async (Option TCP.Socket.Client) := do
  let machines ← DNS.getAddrInfo (nameOf r.url) (toString (portOf r.url))
  let socket ← connected (portOf r.url) machines.toList
  socket.send (ByteArray.mk r.wire.toArray)
  return some socket

/-- Read from a connection until the outcome is settled. -/
partial def outcomeOf (socket : TCP.Socket.Client) (deadline : Nat) (arrived : Bytes) :
    IO Outcome := do
  let (state, arrived) ← do
    match ← byDeadline deadline (socket.recv? 65536) with
    | none => pure (Wire.Connection.expired, arrived)
    | some none => pure (Wire.Connection.closed, arrived)
    | some (some piece) => pure (Wire.Connection.lasting, arrived ++ piece.toList)
  match Wire.outcome? state arrived with
  | some o => return o
  | none => outcomeOf socket deadline arrived

/-- Send a request and read the reply, all of it by a point of time. -/
def outcomeBy (deadline : Nat) (r : Request) : IO Outcome := do
  if r.url.scheme ≠ "http" then
    return .failed (.broken ("the scheme is not supported: " ++ r.url.scheme))
  try
    match ← byDeadline deadline (opened r) with
    | some (some socket) => outcomeOf socket deadline []
    | _ => return .failed .timedOut
  catch e => return .failed (.broken (toString e))

/-- Send a request and measure how long that takes. -/
def exchange (r : Request) : IO Exchange := do
  let start ← IO.monoMsNow
  let outcome ← outcomeBy (start + r.timeout) r
  return ⟨outcome, (← IO.monoMsNow) - start, "corrupt gzip stream"⟩

instance : Outside IO where
  exchange := exchange
  pause n := IO.sleep (UInt32.ofNat n)
  now := do return (← Std.Time.Timestamp.now).toSecondsSinceUnixEpoch.val.toNat
  freshId := do return Identifier.ofRandom (← IO.getRandomBytes 16).toList
  draw bound := IO.rand 0 (bound - 1)

/-- What the system says about a file that cannot be read. -/
def reasonOf : IO.Error → String
  | .noFileOrDirectory .. => "No such file or directory (os error 2)"
  | .permissionDenied .. => "Permission denied (os error 13)"
  | .inappropriateType .. => "Is a directory (os error 21)"
  | e => toString e

/-- The settings in a file. -/
def settingsIn (path : String) : IO (Except SettingsError Settings) := do
  let content ← try
      pure (.ok (← IO.FS.readBinFile path).toList)
    catch e => pure (.error (reasonOf e))
  return Settings.ofFile path content

end Courier.Sockets

/-- Do what the arguments ask for. -/
def main (args : List String) : IO UInt32 := do
  let ran ← Courier.CommandLine.run Courier.Sockets.settingsIn args
  (← IO.getStdout).putStr ran.out
  (← IO.getStderr).putStr ran.error
  return UInt32.ofNat ran.exitCode
