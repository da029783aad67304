import VpnAttach.Decimal.Shortest

/-!
# Nearest double of a decimal

The double that a decimal stands for.  A decimal from half a gap above the
largest double upwards is out of range; one that is too small for any double
but zero becomes zero.
-/

namespace VpnAttach.Decimal

/-- The double nearest to a decimal that is in range.  The size of a decimal
tells whether it is far out of range, or next to zero, before any power of ten
is computed. -/
def Scaled.toFloat? (d : Scaled) : Option Float :=
  if d.digits = 0 ∨ d.pointAt < -330 then some 0
  else if 310 < d.pointAt then none
  else
    let x := Float.ofScientific d.digits (d.exponent < 0) d.exponent.natAbs
    if x.isInf then none else some x

end VpnAttach.Decimal
