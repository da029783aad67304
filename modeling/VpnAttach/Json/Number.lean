import VpnAttach.Json.Basic
import VpnAttach.Text.Numeral

/-!
# JSON numbers

The value of a number literal.  A literal without fraction and exponent that
fits in 64 bits is an integer; every other literal is a double.  A double is
made from a significand of at most 64 bits and a power of ten, by one
multiplication or division: digits that do not fit in the significand are
dropped, those of the whole part shifting the exponent.  A literal beyond the
range of doubles stands for no value.
-/

namespace VpnAttach.Json

/-- The parts of a number literal.  An absent fraction or exponent is `none`;
the exponent has a flag for its minus sign. -/
structure Literal where
  negative : Bool
  whole : List Char
  fraction : Option (List Char)
  exponent : Option (Bool × List Char)

namespace Literal

/-- Appends decimal digits to a significand as long as it stays below `2 ^ 64`.
Returns the significand and how many digits were left over. -/
def absorb (significand : Nat) : List Char → Nat × Nat
  | [] => (significand, 0)
  | c :: cs =>
    let next := significand * 10 + (c.toNat - '0'.toNat)
    if next < UInt64.size then absorb next cs else (significand, cs.length + 1)

/-- The power of ten `10 ^ n` as a double. -/
def powerOfTen (n : Nat) : Float :=
  Float.ofScientific 1 false n

/-- Divides by `10 ^ 308` until the exponent is at least `-308`, or the value
has become zero.  Three rounds are enough for a significand of 64 bits. -/
def rescale : Nat → Float → Int → Float × Int
  | 0, x, exponent => (x, exponent)
  | rounds + 1, x, exponent =>
    if x == 0 || -308 ≤ exponent then (x, exponent)
    else rescale rounds (x / powerOfTen 308) (exponent + 308)

/-- The double `significand * 10 ^ exponent`, if it is in range. -/
def scaled? (significand : Nat) (exponent : Int) : Option Float :=
  let (x, exponent) := rescale 3 (Float.ofNat significand) exponent
  if x == 0 then some x
  else if 308 < exponent then none
  else if exponent < 0 then some (x / powerOfTen exponent.natAbs)
  else
    let product := x * powerOfTen exponent.natAbs
    if product.isInf then none else some product

/-- The exponent a literal writes; beyond 31 bits only its sign matters. -/
def writtenExponent (literal : Literal) : Int :=
  match literal.exponent with
  | none => 0
  | some (negative, digits) =>
    let size := ((Numeral.value? 10 digits).getD 0).min (1 <<< 31)
    if negative then -(size : Int) else size

/-- The value of a literal. -/
def value (literal : Literal) : Json :=
  let (significand, dropped) := absorb 0 literal.whole
  if literal.fraction.isNone ∧ literal.exponent.isNone ∧ dropped = 0 ∧
      (literal.negative → 0 < significand ∧ significand ≤ 1 <<< 63) then
    .int (if literal.negative then -(significand : Int) else significand)
  else
    let fraction := literal.fraction.getD []
    let (significand, unused) := absorb significand fraction
    let shift := (dropped : Int) - ((fraction.length - unused : Nat) : Int)
    match scaled? significand (shift + literal.writtenExponent) with
    | some x => .float (if literal.negative then -x else x)
    | none => .unheld

end Literal
end VpnAttach.Json
