import VpnAttach.Config
import VpnAttach.Journal.Log
import VpnAttach.Options
import VpnAttach.Service.Ids
import VpnAttach.Service.Stream

/-!
# The command line

Reads commands from a file or the standard input, one per line, applies them
to an empty service, and logs what is sent to the agent and what is written to
the journal.
-/

namespace VpnAttach.CommandLine

/-- What is found where the configuration file should be. -/
def readConfig (path : String) : IO ConfigFile := do
  try
    return .document (← IO.FS.readFile path)
  catch
    | .noFileOrDirectory _ _ _ => return .missing
    | _ => return .unreadable

/-- All bytes of a stream behind those that are read already. -/
partial def readAll (input : IO.FS.Stream) (bytes : ByteArray) : IO ByteArray := do
  let more ← input.read 65536
  if more.isEmpty then return bytes
  readAll input (bytes ++ more)

/-- The commands that are to be applied. -/
def readEvents : Option String → IO ByteArray
  | some path => IO.FS.readBinFile path
  | none => do readAll (← IO.getStdin) .empty

/-- A random number for the first allocated id. -/
def randomNumber : IO Nat := do
  let bytes ← IO.getRandomBytes 16
  return bytes.toList.foldl (fun n b => n * 256 + b.toNat) 0

/-- Writes a line of the log, unless it is filtered out. -/
def writeLine (logging : Logging) (line : LogLine) : IO Unit := do
  if line.passes logging.level then
    IO.println (line.render logging.format)

/-- Applies the lines of a stream one by one and logs what they do. -/
def applyLines (setup : Setup) (logging : Logging) (stream : Stream)
    (texts : List String) : IO Stream :=
  texts.foldlM (fun stream text => do
    let after := Stream.take setup stream (Line.ofString text)
    for n in after.service.past.drop stream.service.past.length do
      writeLine logging (.ofNotification n)
    for entry in after.journal.drop stream.journal.length do
      writeLine logging (.ofEntry entry)
    return after) stream

/-- The record of the start or the end of the program. -/
def milestone (action : String) (details : Option Json) : Entry :=
  .audit {
    category := .systemLifecycle
    source := "bgpvpnd"
    action := action
    details := details }

/-- Runs the program with its configuration. -/
def run (options : Options) (config : Config) : IO UInt32 := do
  let logging :=
    { config.logging with level := options.logLevel.getD config.logging.level }
  let random ← randomNumber
  let setup : Setup := { policy := config.policy, ids := Ids.after random }
  writeLine logging (.ofEntry (milestone "start" none))
  let bytes ← readEvents options.events
  let (texts, complete) := Text.decodeAll (Text.lines bytes.toList)
  let stream ← applyLines setup logging {} texts
  if complete then
    writeLine logging (.ofEntry (milestone "stop" (some stream.tally.toJson)))
    return 0
  else
    IO.eprintln "bgpvpnd failed: stream did not contain valid UTF-8"
    return 1

end VpnAttach.CommandLine

open VpnAttach

/-- Reads the options and the configuration, and runs the program. -/
def main (args : List String) : IO UInt32 := do
  match Options.ofArgs args with
  | .error message =>
    IO.eprintln message
    IO.eprintln Options.usage
    return 2
  | .ok options =>
    match Config.ofFile (← CommandLine.readConfig options.config) with
    | .error fault =>
      IO.eprintln ("bgpvpnd: " ++ fault.message)
      return 1
    | .ok config => CommandLine.run options config
