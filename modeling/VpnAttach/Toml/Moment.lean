import VpnAttach.Time.Date
import VpnAttach.Toml.Text
import VpnAttach.Toml.Tree

/-!
# TOML dates and times

A date, a time of day, or both, then perhaps with an offset from UTC.  Only
dates of the calendar and times of the clock are taken, among them a leap
second at any minute's end.
-/

namespace VpnAttach.Toml

/-- A number of exactly `width` digits at the start, and what follows. -/
def fixed? (width : Nat) (cs : List Char) : Option (Nat × List Char) :=
  let digits := cs.take width
  if digits.length = width ∧ digits.all (Numeral.isDigit 10) then
    (Numeral.value? 10 digits).map (·, cs.drop width)
  else none

/-- What follows a date. -/
def date? (cs : List Char) : Option (List Char) := do
  let (year, cs) ← fixed? 4 cs
  let (month, cs) ← fixed? 2 (← after? '-' cs)
  let (day, cs) ← fixed? 2 (← after? '-' cs)
  (Date.make? year month day).map fun _ => cs

/-- What follows the hour and the minute of a day. -/
def minutes? (cs : List Char) : Option (List Char) := do
  let (hour, cs) ← fixed? 2 cs
  let (minute, cs) ← fixed? 2 (← after? ':' cs)
  if 23 < hour ∨ 59 < minute then none else some cs

/-- What follows the seconds of a time, which may be left out. -/
def seconds? : List Char → Option (List Char)
  | ':' :: cs => do
    let (second, cs) ← fixed? 2 cs
    if 60 < second then none
    match cs with
    | '.' :: cs =>
      match cs.span (Numeral.isDigit 10) with
      | ([], _) => none
      | (_, cs) => some cs
    | cs => some cs
  | cs => some cs

/-- What follows a time. -/
def time? (cs : List Char) : Option (List Char) :=
  minutes? cs >>= seconds?

/-- Whether the text is an offset from UTC, or nothing. -/
def isOffset : List Char → Bool
  | [] => true
  | [c] => c == 'Z' || c == 'z'
  | c :: cs => (c == '+' || c == '-') && minutes? cs == some []

/-- Whether the text is a date, a time or both. -/
def isMoment (cs : List Char) : Bool :=
  match date? cs with
  | none => time? cs == some []
  | some [] => true
  | some (c :: cs) => (c == 'T' || c == 't' || c == ' ') &&
    match time? cs with
    | some cs => isOffset cs
    | none => false

/-- A date, a time or both. -/
def moment? (cs : List Char) : Option Toml :=
  if isMoment cs then some (.moment (String.ofList cs)) else none

end VpnAttach.Toml
