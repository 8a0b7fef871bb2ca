import PuzzleInputs.Http.Client
import PuzzleInputs.Http.Format
import PuzzleInputs.Program
import Std.Async.DNS
import Std.Async.System
import Std.Async.TCP
import Std.Time

/-!
# The command line

The program on a real machine: its files, console and clock as a `Host`, and a `Wire` over plain
TCP connections.
-/

namespace PuzzleInputs.Console

open Std.Async Std.Net

/-- An error number; some calls give it with a minus sign. -/
def systemFault (code : UInt32) : IoFault :=
  .system (if code.toNat ≤ Word.maxSigned32 then code.toNat else (0 - code).toNat)

def faultOf : IO.Error → IoFault
  | .alreadyExists _ code _ => systemFault code
  | .otherError code _ => systemFault code
  | .resourceBusy code _ => systemFault code
  | .resourceVanished code _ => systemFault code
  | .unsupportedOperation code _ => systemFault code
  | .hardwareFault code _ => systemFault code
  | .unsatisfiedConstraints code _ => systemFault code
  | .illegalOperation code _ => systemFault code
  | .protocolError code _ => systemFault code
  | .timeExpired code _ => systemFault code
  | .interrupted _ code _ => systemFault code
  | .noFileOrDirectory _ code _ => systemFault code
  | .invalidArgument _ code _ => systemFault code
  | .permissionDenied _ code _ => systemFault code
  | .resourceExhausted _ code _ => systemFault code
  | .inappropriateType _ code _ => systemFault code
  | .noSuchThing _ code _ => systemFault code
  | .unexpectedEof => .other "unexpected end of file"
  | .userError text => .other text

def attempt {α : Type} (action : IO α) : IO (Except IoFault α) := do
  try
    return .ok (← action)
  catch e => return .error (faultOf e)

/-- A path with a character that no file name can hold is refused here. -/
def onPath {α : Type} (path : Path) (action : String → IO α) : IO (Except IoFault α) :=
  if path.text.toList.contains '\x00' then return .error .nulInPath
  else attempt (action path.text)

/-- Sleeps in waits of at most a day. -/
def sleep (pause : Pause) : IO Unit := do
  let day := 86400000
  let millis := pause.toNanos / 1000000
  for _ in [0:millis / day] do
    IO.sleep (UInt32.ofNat day)
  IO.sleep (UInt32.ofNat (millis % day))

def ownOffset : IO Int := do
  try
    return (← Std.Time.DateTime.now).offset.second.val
  catch _ => return 0

/-- Without a date there is no run. -/
def clock : IO Clock := do
  let now := (← Std.Time.Timestamp.now).toSecondsSinceUnixEpoch.val
  let own ← ownOffset
  if h : (-86400 < own ∧ own < 86400) ∧
      Zone.firstSecond + 86400 ≤ now ∧ now ≤ Zone.lastSecond - 86400 then
    return .ofTable now own h.1 h.2
  else throw (IO.userError "the local time is out of range")

def host : Host IO where
  read path := onPath path fun p => IO.FS.readBinFile p
  makeDirectories path := onPath path fun p => IO.FS.createDirAll p
  write path bytes := onPath path fun p => IO.FS.writeBinFile p bytes
  print := IO.println
  complain := IO.eprintln
  log e := IO.eprintln e.shownLine
  wait := sleep
  clock := clock

/-- The host of an authority and the number behind its colon; without one it is 80. -/
def hostAndNumber (authority : String) : String × UInt16 :=
  let cs := ((authority.splitOn "@").getLast?.getD "").toList
  let (host, rest) := match cs with
    | '[' :: rest => (rest.takeWhile (· != ']'), ((rest.dropWhile (· != ']')).drop 1))
    | _ => (cs.takeWhile (· != ':'), cs.dropWhile (· != ':'))
  let number := ((String.ofList (rest.drop 1)).toNat?).getD 80
  (String.ofList host, UInt16.ofNat number)

def socketAddress (number : UInt16) : IPAddr → SocketAddress
  | .v4 addr => .v4 ⟨addr, number⟩
  | .v6 addr => .v6 ⟨addr, number⟩

partial def receiveAll (client : TCP.Socket.Client) (acc : ByteArray) : Async ByteArray := do
  match ← client.recv? 65536 with
  | some bytes => receiveAll client (acc ++ bytes)
  | none => return acc

/-- Sends the bytes to the first address of the host and gives all that comes back. -/
def talk (authority : String) (bytes : ByteArray) : Async ByteArray := do
  let (name, number) := hostAndNumber authority
  match (← DNS.getAddrInfo name "").toList with
  | [] => throw (IO.userError "no address found for host")
  | addr :: _ =>
    let client ← TCP.Socket.Client.mk
    client.connect (socketAddress number addr)
    client.send bytes
    receiveAll client ByteArray.empty

def wire : Http.Wire IO := fun message => do
  if message.uri.scheme.any (sameAsciiLetters · "https") then
    return .error (.io (.other "encrypted connections are not supported"))
  else
    match ← attempt (talk message.uri.authority message.encode).block with
    | .error fault => return .error (.io fault)
    | .ok bytes =>
      match Http.Reply.decode? bytes with
      | some reply => return .ok reply
      | none => return .error .disconnected

/-- Only bodies that are not compressed can be read. -/
def decode : Http.Decoder := fun reply =>
  match reply.fields.get? "content-encoding" with
  | some "gzip" => .error (.encoding "gzip" "not supported")
  | _ => reply.payload

/-- The home directory that the account database names for the user. -/
def accountHome : IO (Option String) := do
  try
    return (← Std.Async.System.getCurrentUser).homeDir.map (·.toString)
  catch _ => return none

def environment : IO Environment :=
  return { home := ← IO.getEnv "HOME"
           accountHome := ← accountHome
           configHome := ← IO.getEnv "XDG_CONFIG_HOME"
           logFilter := ← IO.getEnv "RUST_LOG" }

end PuzzleInputs.Console

open PuzzleInputs in
def main (args : List String) : IO UInt32 := do
  let transport := Http.transport Console.decode Console.wire
  let code ← Program.execute Console.host transport (← Console.environment) args
  return UInt32.ofNat code
