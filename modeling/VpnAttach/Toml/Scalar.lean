import VpnAttach.Toml.Moment
import VpnAttach.Toml.Number

/-!
# TOML values without quotes

Numbers, truth values, dates and times.  These values have no quotes: they end
at a blank, a comment or punctuation.
-/

namespace VpnAttach.Toml

/-- The value a text without quotes stands for. -/
def ofBareChars? (cs : List Char) : Option Toml :=
  match cs with
  | ['t', 'r', 'u', 'e'] => some (.bool true)
  | ['f', 'a', 'l', 's', 'e'] => some (.bool false)
  | cs => number? cs <|> moment? cs

/-- Whether a text without quotes ends before `c`. -/
def endsBare (c : Char) : Bool :=
  isSpace c || ['\n', '\r', '#', ',', '=', '[', ']', '{', '}'].contains c

/-- A value without quotes.  A date with a blank and a digit behind it goes on
with a time. -/
def bare? (cs : List Char) : Option (Toml × List Char) :=
  let (front, rest) := cs.span fun c => !endsBare c
  match date? front, rest with
  | some [], ' ' :: d :: more =>
    if Numeral.isDigit 10 d then
      let (back, rest) := (d :: more).span fun c => !endsBare c
      (ofBareChars? (front ++ ' ' :: back)).map (·, rest)
    else (ofBareChars? front).map (·, rest)
  | _, _ => (ofBareChars? front).map (·, rest)

end VpnAttach.Toml
