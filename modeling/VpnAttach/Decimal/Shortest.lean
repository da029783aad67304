import VpnAttach.Text.Numeral

/-!
# Shortest decimal of a double

A positive finite double is `m * 2 ^ q` with natural `m`.  The reals that
round to it form an interval; its ends belong to it when `m` is even.  On the
grid of decimals with a given exponent the two neighbours of the double are
tested, from the coarsest grid to the finest: the first grid that has a point
in the interval gives the fewest digits, and of two points the nearer one is
taken.
-/

namespace VpnAttach.Decimal

/-- A positive binary number `m * 2 ^ q`.  `atPower` says that the gap below
the number is half of the gap above it. -/
structure Binary where
  m : Nat
  q : Int
  atPower : Bool

/-- A positive decimal number `digits * 10 ^ exponent`. -/
structure Scaled where
  digits : Nat
  exponent : Int
  deriving DecidableEq

/-- The parts of a positive finite double, from its bits. -/
def Binary.ofBits (bits : UInt64) : Binary :=
  let fraction : Nat := bits.toNat % 1 <<< 52
  let biased : Nat := bits.toNat >>> 52 % 1 <<< 11
  if biased = 0 then ⟨fraction, -1074, false⟩
  else ⟨1 <<< 52 + fraction, (biased : Int) - 1075, fraction = 0 && 1 < biased⟩

/-- `a * 2 ^ q` over `10 ^ e` as a fraction, with `a` counted in quarters. -/
def fraction (a : Nat) (q e : Int) : Nat × Nat :=
  (a <<< q.toNat * Nat.pow 10 (-e).toNat, 4 <<< (-q).toNat * Nat.pow 10 e.toNat)

/-- Whether the grid point `n * 10 ^ e` rounds to the binary number. -/
def Binary.admits (b : Binary) (n : Nat) (e : Int) : Bool :=
  let below := if b.atPower then 4 * b.m - 1 else 4 * b.m - 2
  let above := 4 * b.m + 2
  let (low, den) := fraction below b.q e
  let (high, _) := fraction above b.q e
  if b.m % 2 = 0 then low ≤ n * den && n * den ≤ high
  else low < n * den && n * den < high

/-- The point of the grid `10 ^ e` that rounds to the binary number and is
nearest to it, if there is one; a tie goes to the even point. -/
def Binary.nearestOn? (b : Binary) (e : Int) : Option Nat :=
  let (num, den) := fraction (4 * b.m) b.q e
  let low := num / den
  let rest := num % den
  let lowFits := low != 0 && b.admits low e
  let highFits := b.admits (low + 1) e
  if lowFits && highFits then
    if 2 * rest < den || (2 * rest = den && low % 2 = 0) then some low
    else some (low + 1)
  else if lowFits then some low
  else if highFits then some (low + 1)
  else none

/-- The first grid, from `10 ^ e` downwards, with a point that rounds to the
binary number. -/
def Binary.search (b : Binary) : Nat → Int → Scaled
  | 0, e => ⟨0, e⟩
  | fuel + 1, e =>
    match b.nearestOn? e with
    | some n => ⟨n, e⟩
    | none => b.search fuel (e - 1)

/-- An exponent whose grid is coarser than the number: the number is below
`10 ^ e`. -/
def Binary.magnitude (b : Binary) : Int :=
  let bits : Int := b.m.log2 + 1 + b.q
  if 0 ≤ bits then (bits.toNat * 30103 / 100000 : Nat) + 1
  else -(((-bits).toNat * 30102 / 100000 : Nat) : Int) + 1

/-- The shortest decimal that rounds to the binary number. -/
def Binary.shortest (b : Binary) : Scaled :=
  b.search 24 b.magnitude

/-- How many digits a decimal has before its point, were it written without an
exponent. -/
def Scaled.pointAt (d : Scaled) : Int :=
  (Numeral.decimal d.digits).length + d.exponent

end VpnAttach.Decimal
