/-!
# Lines of bytes

A line ends with a line feed, or where the input ends.  A carriage return
right before the line feed belongs to the end of the line.
-/

namespace VpnAttach.Text

/-- The byte of the line feed. -/
def lineFeed : UInt8 := 10

/-- The byte of the carriage return. -/
def carriageReturn : UInt8 := 13

/-- A line without a carriage return at its end. -/
def dropReturn : List UInt8 → List UInt8
  | [] => []
  | [b] => if b = carriageReturn then [] else [b]
  | b :: line => b :: dropReturn line

/-- The lines of an input.  `line` has the bytes of the line that is being
read, last first. -/
def linesFrom (line : List UInt8) : List UInt8 → List (List UInt8)
  | [] => if line.isEmpty then [] else [line.reverse]
  | b :: bytes =>
    if b = lineFeed then dropReturn line.reverse :: linesFrom [] bytes
    else linesFrom (b :: line) bytes

/-- The lines of an input, without their ends. -/
def lines (bytes : List UInt8) : List (List UInt8) :=
  linesFrom [] bytes

/-- The text of a line, if it is valid UTF-8. -/
def decode? (line : List UInt8) : Option String :=
  String.fromUTF8? ⟨line.toArray⟩

/-- The texts of the lines before the first that has none, and whether these
are all lines. -/
def decodeAll : List (List UInt8) → List String × Bool
  | [] => ([], true)
  | line :: lines =>
    match decode? line with
    | none => ([], false)
    | some text =>
      let (texts, complete) := decodeAll lines
      (text :: texts, complete)

end VpnAttach.Text
