import CloudSteward.Http.Connection
import CloudSteward.Operator.Options
import CloudSteward.Operator.Sweep
import Std.Async.DNS
import Std.Async.TCP
import Std.Async.Timer
import Std.Time.DateTime.Timestamp

/-!
# The program

Runs an operator on a real directory against a real cloud, until it is stopped.
Connections are plain, so a cloud that insists on safe ones is reached through a
relay; without one its requests stay unanswered.
-/

namespace CloudSteward

open Std.Async

/-! ## The directory -/

/-- What the system means by an error. -/
def FileFault.ofError : IO.Error → FileFault
  | .noFileOrDirectory _ _ _ => .missing
  | .alreadyExists _ _ _ => .alreadyThere
  | error => .other (toString error)

private def attempt {α : Type} (action : IO α) : IO (Except FileFault α) := do
  try return .ok (← action)
  catch error => return .error (FileFault.ofError error)

/-- Performs an action on the directory at `home`. -/
def FileAction.carryOut (home : String) : (action : FileAction) → IO action.Answer
  | .create => attempt (IO.FS.createDirAll home)
  | .list => attempt do
      let folder : IO.FS.DirEntry := { root := home, fileName := "" }
      return (← folder.root.readDir).toList.map IO.FS.DirEntry.fileName
  | .read path => attempt do
      return Text.ofBytes (← IO.FS.readBinFile (Store.address home path))
  | .write path content => attempt do
      IO.FS.writeBinFile (Store.address home path) ⟨content.bytes.toArray⟩
  | .rename source target =>
      attempt (IO.FS.rename (Store.address home source) (Store.address home target))

/-! ## The cloud -/

/-- All that comes until the other side closes the connection. -/
private partial def receiveAll (socket : TCP.Socket.Client) (received : ByteArray) :
    Async ByteArray := do
  match ← socket.recv? 65536 with
  | some more => receiveAll socket (received ++ more)
  | none => return received

/-- Sends a request over a connection of its own. -/
private def exchange (request : Http.Request) : Async Http.Delivery := do
  let addresses ← DNS.getAddrInfo request.url.host "" (some .ipv4)
  match addresses.toList with
  | Std.Net.IPAddr.v4 addr :: _ =>
      let socket ← TCP.Socket.Client.mk
      socket.connect (.v4 ⟨addr, request.url.service.toUInt16⟩)
      socket.send request.text.toUTF8
      return .ofBytes (← receiveAll socket .empty)
  | _ => return .unanswered

/-- Sends a request, and waits for some milliseconds at most. -/
def Http.Request.carryOut (timeout : Nat) (request : Http.Request) : IO Http.Delivery := do
  let late : Async Http.Delivery := do
    sleep (.ofNat timeout)
    return .unanswered
  if request.url.scheme = "http" then
    try Async.block (Async.race (exchange request) late)
    catch _ => return .unanswered
  else return .unanswered

/-! ## Everything together -/

/-- The time on the wall clock. -/
private def currentMoment : IO Moment := do
  let now ← Std.Time.Timestamp.now
  let nanos := now.toNanosecondsSinceUnixEpoch.val.toNat
  return .ofUnix (nanos / Time.nanosPerSecond) (nanos % Time.nanosPerSecond)

/-- Gives an operator what it asks for. -/
def Effect.carryOut (options : Options) : (effect : Effect) → IO effect.Answer
  | .file action => action.carryOut options.manifests
  | .call request =>
      (options.client.make request).run (Http.Request.carryOut (options.timeout * 1000))
  | .moment => currentMoment
  | .instant => IO.monoMsNow
  | .wait duration => IO.sleep duration.toUInt32

/-- Sweeps again and again, and says so when the manifests cannot be listed. -/
private partial def watch (options : Options) (operator : Operator) : IO Unit := do
  let (outcome, operator) ← operator.sweep.run (Effect.carryOut options)
  match outcome with
  | .ok _ => pure ()
  | .error fault => IO.eprintln ("Sweep failed: " ++ Operator.sweepFailure fault)
  IO.sleep operator.period.toUInt32
  watch options operator

/-- Prepares the directory and starts to sweep. -/
private def start (options : Options) : IO UInt32 := do
  let operator := Operator.new options.policy (options.resync * 1000)
  match ← Store.ensureHome.run (FileAction.carryOut options.manifests) with
  | .error error =>
      IO.eprintln ("Failed to prepare manifest directory: " ++ error.text options.manifests)
      return 1
  | .ok () =>
      if operator.period = 0 then
        IO.eprintln Operator.periodFailure
        return 101
      else
        watch options operator
        return 0

/-- The environment, as far as options are concerned. -/
private def readEnvironment : IO (String → Option String) := do
  let found ← Options.environmentNames.filterMapM fun name => do
    return (← IO.getEnv name).map (name, ·)
  return fun name => found.lookup name

end CloudSteward

open CloudSteward

def main (arguments : List String) : IO UInt32 := do
  let environment ← readEnvironment
  match (Options.default environment).read arguments with
  | .error fault =>
      IO.eprintln ("error: " ++ fault.text)
      return 2
  | .ok options => start options
