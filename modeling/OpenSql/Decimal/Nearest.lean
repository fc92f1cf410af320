/-
# OpenSql.Decimal.Nearest — the double nearest to a decimal number.

The exponent of a number as it is written may be of any size.  A number far below the smallest double
is zero, one far above the greatest is infinite; all others are rounded once, a tie going to the even
neighbour.
-/

namespace OpenSql.Decimal

/-- The double nearest to `coefficient · 10 ^ exponent`, for a coefficient of the given number of
digits. -/
def nearest (coefficient digitCount : Nat) (exponent : Int) : Float :=
  if coefficient = 0 then 0.0
  else if 400 < exponent + digitCount then 1.0 / 0.0
  else if exponent + digitCount < -400 then 0.0
  else if 0 ≤ exponent then Float.ofScientific (coefficient * Nat.pow 10 exponent.toNat) false 0
  else Float.ofScientific coefficient true (-exponent).toNat

end OpenSql.Decimal
