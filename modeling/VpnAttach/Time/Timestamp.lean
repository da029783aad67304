import VpnAttach.Text.Blank
import VpnAttach.Text.Numeral
import VpnAttach.Time.Date

/-!
# Timestamps

Points of time in UTC, to the nanosecond.  They are written as RFC 3339 asks
for, and read in a wider form: numbers may have fewer digits, blanks may stand
around them, a year may have a sign, and the offset may be the letters `UTC`.
A leap second is kept as the second before it with more than a thousand
million nanoseconds.
-/

namespace VpnAttach

/-- A point of time in UTC. -/
structure Timestamp where
  date : Date
  /-- The second of the day. -/
  second : Nat
  nanos : Nat
  deriving DecidableEq

namespace Timestamp

/-! ## Reading -/

/-- How many seconds a day has. -/
def secondsPerDay : Nat := 86400

/-- How many nanoseconds a second has. -/
def nanosPerSecond : Nat := 1000000000

/-- A number of at least one and at most `width` digits, and what follows. -/
def number? (width : Nat) (cs : List Char) : Option (Nat × List Char) := do
  let digits := (cs.take width).takeWhile (Numeral.isDigit 10)
  return (← Numeral.value? 10 digits, cs.drop digits.length)

/-- A number behind blanks. -/
def field? (width : Nat) (cs : List Char) : Option (Nat × List Char) :=
  number? width (Text.trimStart cs)

/-- What follows the character `c`, which may stand behind blanks. -/
def mark? (c : Char) (cs : List Char) : Option (List Char) :=
  match Text.trimStart cs with
  | d :: rest => if d = c then some rest else none
  | [] => none

/-- A year.  It has at most four digits unless it has a sign. -/
def year? (cs : List Char) : Option (Int × List Char) :=
  match Text.trimStart cs with
  | '-' :: rest => (number? rest.length rest).map fun (n, rest) => (-(n : Int), rest)
  | '+' :: rest => (number? rest.length rest).map fun (n, rest) => (n, rest)
  | rest => (number? 4 rest).map fun (n, rest) => (n, rest)

/-- A date, and what follows. -/
def date? (cs : List Char) : Option (Date × List Char) := do
  let (year, cs) ← year? cs
  let (month, cs) ← field? 2 (← mark? '-' cs)
  let (day, cs) ← field? 2 (← mark? '-' cs)
  return (← Date.make? year month day, cs)

/-- The fraction of a second in nanoseconds, and what follows.  Digits beyond
the ninth are passed over. -/
def fraction? : List Char → Option (Nat × List Char)
  | '.' :: cs => do
    let (value, rest) ← number? 9 cs
    let digits := cs.length - rest.length
    return (value * Nat.pow 10 (9 - digits), rest.dropWhile (Numeral.isDigit 10))
  | cs => some (0, cs)

/-- The second of the day and the nanoseconds of a time, and what follows. -/
def time? (cs : List Char) : Option (Nat × Nat × List Char) := do
  let (hour, cs) ← field? 2 cs
  let (minute, cs) ← field? 2 (← mark? ':' cs)
  let (second, cs) ← field? 2 (← mark? ':' cs)
  let (nanos, cs) ← fraction? cs
  if 24 ≤ hour ∨ 60 ≤ minute ∨ 60 < second then none
  else
    let start := hour * 3600 + minute * 60
    if second = 60 then return (start + 59, nanos + nanosPerSecond, cs)
    else return (start + second, nanos, cs)

/-- The sign of an offset: whether it is a minus, and what follows. -/
def sign? : List Char → Option (Bool × List Char)
  | '+' :: cs => some (false, cs)
  | '-' :: cs => some (true, cs)
  | '\u2212' :: cs => some (true, cs)
  | _ => none

/-- Exactly two digits, and what follows. -/
def twoDigits? : List Char → Option (Nat × List Char)
  | a :: b :: cs => (Numeral.value? 10 [a, b]).map (·, cs)
  | _ => none

/-- An offset from UTC in seconds, and what follows. -/
def offset? (cs : List Char) : Option (Int × List Char) :=
  match cs with
  | [] => none
  | c :: rest =>
    if c = 'Z' ∨ c = 'z' then some (0, rest)
    else if (cs.take 3).map Char.toUpper = ['U', 'T', 'C'] then some (0, cs.drop 3)
    else do
      let (negative, cs) ← sign? cs
      let (hours, cs) ← twoDigits? cs
      let (minutes, cs) ← twoDigits? <|
        cs.dropWhile fun c => c == ':' || Text.isBlank c
      if 24 ≤ hours ∨ 60 ≤ minutes then none
      else
        let size : Int := hours * 3600 + minutes * 60
        return (if negative then -size else size, cs)

/-- The point of time at which a place with the given offset has the given
date and second of the day. -/
def atOffset? (date : Date) (second nanos : Nat) (offset : Int) :
    Option Timestamp := do
  let moved := (second : Int) - offset
  let second := (moved % secondsPerDay).toNat
  if moved < 0 then return ⟨← date.previous?, second, nanos⟩
  else if moved < secondsPerDay then return ⟨date, second, nanos⟩
  else return ⟨← date.next?, second, nanos⟩

/-- The timestamp written by `cs`. -/
def ofChars? (cs : List Char) : Option Timestamp := do
  let (date, cs) ← date? cs
  let (second, nanos, cs) ←
    match cs with
    | c :: cs => if c ∈ ['T', 't', ' '] then time? cs else none
    | [] => none
  let (offset, cs) ← offset? (Text.trimStart cs)
  if (Text.trimStart cs).isEmpty then atOffset? date second nanos offset else none

/-! ## Writing -/

/-- A number with at least `width` digits. -/
def padded (width n : Nat) : List Char :=
  Numeral.padZeros width (Numeral.decimal n)

/-- A year, with a sign if it is outside the four-digit years. -/
def yearChars (year : Int) : List Char :=
  if year < 0 then '-' :: padded 4 year.natAbs
  else if year ≤ 9999 then padded 4 year.natAbs
  else '+' :: padded 4 year.natAbs

/-- The fraction of a second, in as few groups of three digits as are needed. -/
def fractionChars (nanos : Nat) : List Char :=
  if nanos = 0 then []
  else if nanos % 1000000 = 0 then '.' :: padded 3 (nanos / 1000000)
  else if nanos % 1000 = 0 then '.' :: padded 6 (nanos / 1000)
  else '.' :: padded 9 nanos

/-- The text of a timestamp, as characters. -/
def toChars (t : Timestamp) : List Char :=
  let leap := t.nanos / nanosPerSecond
  yearChars t.date.year ++ '-' :: padded 2 t.date.month ++
    '-' :: padded 2 t.date.day ++ 'T' :: padded 2 (t.second / 3600) ++
    ':' :: padded 2 (t.second / 60 % 60) ++
    ':' :: padded 2 (t.second % 60 + leap) ++
    fractionChars (t.nanos % nanosPerSecond) ++ ['Z']

/-- The text of a timestamp. -/
def text (t : Timestamp) : String :=
  String.ofList t.toChars

end Timestamp
end VpnAttach
