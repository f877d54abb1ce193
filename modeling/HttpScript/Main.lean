import HttpScript.CommandLine.Replay
import HttpScript.Http.Wire
import Std.Async.DNS
import Std.Async.TCP

/-!
The command line: looks at the files that the program may need, carries out what it does, and takes
its messages to the servers.
-/

open HttpScript
open Std.Async

namespace HttpScript.CommandLine

def entryAt (path : String) : IO Entry := do
  try
    return .file (← IO.FS.readBinFile path).toList
  catch _ =>
    let isDirectory ← try
        pure ((← (System.mkFilePath [path]).metadata).type == .dir)
      catch _ => pure false
    return if isDirectory then .directory else .missing

/-- The values of the variables that are set. -/
def valuesOf (names : List String) : IO Environment := do
  let values ← names.mapM fun name => return (name, ← IO.getEnv name)
  return values.filterMap fun (name, value) => value.map fun v => (name, v)

/-- The surroundings, with the entries at the paths that the program may look at. -/
def look (args : List String) : IO Surroundings := do
  let environment ← valuesOf Replay.variableNames
  let above := (pathNames (← IO.currentDir).toString).length
  let home := (Entries.get? "HOME" environment).getD ""
  let found ← (Program.paths args home above).mapM fun path => return (path, ← entryAt path)
  let s : Surroundings := ⟨fun path => (Entries.get? path found).getD .missing, above, environment⟩
  let bindings := match Environment.bindingsAround s with
    | .ok bindings => bindings
    | .error _ => []
  return { s with environment :=
    Entries.putAll environment (← valuesOf (Environment.mentioned bindings)) }

/-- Receive until the reply is complete. -/
partial def receive (socket : TCP.Socket.Client) (d : Delivery) (got : List UInt8) :
    Async (Option RawReply) := do
  match ← socket.recv? 65536 with
  | none => return Wire.reply? d true got
  | some bytes =>
    let got := got ++ bytes.toList
    match Wire.reply? d false got with
    | some r => return some r
    | none => receive socket d got

def exchange (d : Delivery) : IO (Except String RawReply) := do
  match Wire.target? d.url with
  | none => return .error s!"no way to reach {d.url}"
  | some t =>
    try
      let reply ← Async.block do
        let addresses : Array Std.Net.IPAddr ← DNS.getAddrInfo t.host (toString t.port)
        let socket ← TCP.Socket.Client.mk
        match addresses.toList with
        | [] => throw (IO.userError s!"unknown host {t.host}")
        | .v4 a :: _ => socket.connect (.v4 ⟨a, t.port.toUInt16⟩)
        | .v6 a :: _ => socket.connect (.v6 ⟨a, t.port.toUInt16⟩)
        socket.send ⟨(Wire.request d t).toArray⟩
        receive socket d []
      return match reply with
        | some r => .ok r
        | none => .error "the reply is not complete"
    catch e => return .error (toString e)

def perform : Output → IO Unit
  | .shown lines => IO.print (linesText lines)
  | .noted lines => IO.eprint (linesText lines)
  | .sent _ => return
  | .paused seconds => IO.sleep (seconds * 1000).toUInt32

/-- Run the program as far as the answers reach, ask for the next one, and run it again. -/
partial def advance (run : Replay.Answers → ProgramRun Replay) (answers : Replay.Answers)
    (done : Nat) : IO ProgramEnd := do
  let r := run answers
  let settled := Replay.settled r
  for o in settled.drop done do perform o
  match r.link.pending with
  | none => return r.ending
  | some d => advance run (answers ++ [← exchange d]) settled.length

end HttpScript.CommandLine

open HttpScript.CommandLine in
def main (args : List String) : IO UInt32 := do
  let surroundings ← look args
  let seed := (← IO.getRandomBytes 16).toList.foldl (fun n b => 256 * n + b.toNat) 0
  let run (answers : Replay.Answers) : ProgramRun Replay :=
    Program.run (Replay.packagesOn Replay.network) surroundings (Replay.identifier seed) args
      ⟨answers, none⟩
  match ← advance run [] 0 with
  | .exit code => return code.toUInt32
  | .stopped why =>
    IO.eprintln why.message
    return 1
