/-!
# Calendar dates

Dates of the proleptic Gregorian calendar, of the years that fit in nineteen
bits with their sign, less the first and the last of these.
-/

namespace VpnAttach

/-- A date. -/
structure Date where
  year : Int
  month : Nat
  day : Nat
  deriving DecidableEq

namespace Date

/-- The first year that has dates. -/
def firstYear : Int := -262143

/-- The last year that has dates. -/
def lastYear : Int := 262142

/-- Whether a year has a leap day. -/
def isLeap (year : Int) : Bool :=
  year % 4 == 0 && (year % 100 != 0 || year % 400 == 0)

/-- How many days a month has. -/
def daysIn (year : Int) (month : Nat) : Nat :=
  if month = 2 then (if isLeap year then 29 else 28)
  else if month ∈ [4, 6, 9, 11] then 30
  else 31

/-- The date of a day that exists. -/
def make? (year : Int) (month day : Nat) : Option Date :=
  if firstYear ≤ year ∧ year ≤ lastYear ∧ 1 ≤ month ∧ month ≤ 12 ∧ 1 ≤ day ∧
      day ≤ daysIn year month then
    some ⟨year, month, day⟩
  else none

/-- The day after, if it has a date. -/
def next? (date : Date) : Option Date :=
  if date.day < daysIn date.year date.month then
    some { date with day := date.day + 1 }
  else if date.month < 12 then some { date with month := date.month + 1, day := 1 }
  else make? (date.year + 1) 1 1

/-- The day before, if it has a date. -/
def previous? (date : Date) : Option Date :=
  if 1 < date.day then some { date with day := date.day - 1 }
  else if 1 < date.month then
    let month := date.month - 1
    some { date with month := month, day := daysIn date.year month }
  else make? (date.year - 1) 12 31

end Date
end VpnAttach
