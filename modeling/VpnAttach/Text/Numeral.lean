/-!
# Numerals

Numbers written in the digits of a base.  `value?` reads a non-empty run of
digits and nothing else; `unsigned?` also takes one leading plus sign, which
is how machine words are written in addresses and prefix lengths.
-/

namespace VpnAttach.Numeral

/-- The value of `c` as a digit of `base`; letters count from ten in either
case. -/
def digit? (base : Nat) (c : Char) : Option Nat :=
  let value :=
    if '0' ≤ c ∧ c ≤ '9' then some (c.toNat - '0'.toNat)
    else if 'a' ≤ c ∧ c ≤ 'z' then some (c.toNat - 'a'.toNat + 10)
    else if 'A' ≤ c ∧ c ≤ 'Z' then some (c.toNat - 'A'.toNat + 10)
    else none
  value.filter (· < base)

/-- Whether `c` is a digit of `base`. -/
def isDigit (base : Nat) (c : Char) : Bool :=
  (digit? base c).isSome

/-- Reads `cs` behind a number `acc` that is already known. -/
def valueFrom? (base acc : Nat) : List Char → Option Nat
  | [] => some acc
  | c :: cs => do valueFrom? base (acc * base + (← digit? base c)) cs

/-- The number written by `cs`, a non-empty run of digits. -/
def value? (base : Nat) (cs : List Char) : Option Nat :=
  if cs.isEmpty then none else valueFrom? base 0 cs

/-- The number written by `cs`, which may start with a plus sign. -/
def unsigned? (base : Nat) : List Char → Option Nat
  | '+' :: cs => value? base cs
  | cs => value? base cs

/-- The number written by `cs` if it fits in a byte. -/
def byte? (base : Nat) (cs : List Char) : Option UInt8 :=
  match unsigned? base cs with
  | some n => if n < 256 then some (UInt8.ofNat n) else none
  | none => none

/-- `n` in decimal, without leading zeros. -/
def decimal (n : Nat) : List Char :=
  Nat.toDigits 10 n

/-- `n` in lower-case hexadecimal, without leading zeros. -/
def hexadecimal (n : Nat) : List Char :=
  Nat.toDigits 16 n

/-- `cs` with zeros in front, at least `width` characters long. -/
def padZeros (width : Nat) (cs : List Char) : List Char :=
  List.replicate (width - cs.length) '0' ++ cs

end VpnAttach.Numeral
