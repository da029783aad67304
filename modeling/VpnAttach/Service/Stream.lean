import VpnAttach.Command.Json
import VpnAttach.Service.Basic
import VpnAttach.Text.Blank
import VpnAttach.Text.Lines

/-!
# Streams of commands

A stream has one command per line.  Blank lines and lines that start with a
number sign are skipped; a line that is not a command is counted and written
down.  A stream ends early at a line that is not valid UTF-8.
-/

namespace VpnAttach

/-- What a line of a stream stands for. -/
inductive Line where
  /-- A blank line or a comment. -/
  | skipped
  | malformed
  | command (command : Command)
  deriving DecidableEq

/-- What a text stands for as a line. -/
def Line.ofString (s : String) : Line :=
  match Text.trim s.toList with
  | [] => .skipped
  | '#' :: _ => .skipped
  | cs =>
    match Json.ofChars? cs >>= Command.ofJson? with
    | some c => .command c
    | none => .malformed

/-- How many lines of a stream were applied, refused and malformed. -/
structure Tally where
  applied : Nat := 0
  rejected : Nat := 0
  malformed : Nat := 0
  deriving DecidableEq

/-- The encoding of a tally. -/
def Tally.toJson (tally : Tally) : Json :=
  .obj [("applied", .int tally.applied), ("rejected", .int tally.rejected),
    ("malformed", .int tally.malformed)]

/-- A stream that is being read. -/
structure Stream where
  service : Service := {}
  tally : Tally := {}
  journal : List Entry := []

namespace Stream

/-- Takes one line. -/
def take (setup : Setup) (stream : Stream) : Line → Stream
  | .skipped => stream
  | .malformed =>
    { stream with
      tally := { stream.tally with malformed := stream.tally.malformed + 1 }
      journal := stream.journal ++ [.notice .malformedCommand] }
  | .command command =>
    let step := stream.service.apply setup command
    match step.answer with
    | .ok _ =>
      { service := step.service
        tally := { stream.tally with applied := stream.tally.applied + 1 }
        journal := stream.journal ++ step.journal }
    | .error refusal =>
      { service := step.service
        tally := { stream.tally with rejected := stream.tally.rejected + 1 }
        journal := stream.journal ++ step.journal ++
          [.notice (.rejectedCommand command.name refusal)] }

/-- Takes the lines of an input up to the first that is not UTF-8.  Tells
whether these were all lines. -/
def run (setup : Setup) (stream : Stream) (bytes : List UInt8) : Stream × Bool :=
  let (texts, complete) := Text.decodeAll (Text.lines bytes)
  ((texts.map Line.ofString).foldl (take setup) stream, complete)

end Stream
end VpnAttach
