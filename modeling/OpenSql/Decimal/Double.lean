/-
# OpenSql.Decimal.Double — the parts of a double-precision number.

A double is not a number, an infinity, or a sign with `mantissa · 2 ^ exponent`.  The real numbers
that round to a finite double form an interval around it; it reaches half way to the neighbours and
is narrower below a power of two.
-/

namespace OpenSql.Decimal

/-- A finite double without its sign. -/
structure Magnitude where
  mantissa : Nat
  exponent : Int
  /-- The neighbour below is at half the distance of the neighbour above. -/
  narrowBelow : Bool

/-- What the bits of a double say. -/
inductive Double where
  | notANumber
  | infinite (negative : Bool)
  | finite (negative : Bool) (magnitude : Magnitude)

/-- Reads the sign, the exponent and the fraction of a double. -/
def Double.ofBits (bits : UInt64) : Double :=
  let n : Nat := bits.toNat
  let negative := n / 9223372036854775808 == 1
  let biased : Nat := n / 4503599627370496 % 2048
  let fraction := n % 4503599627370496
  if biased == 2047 then
    if fraction == 0 then .infinite negative else .notANumber
  else if biased == 0 then .finite negative ⟨fraction, -1074, false⟩
  else
    .finite negative
      ⟨4503599627370496 + fraction, (biased : Int) - 1075, fraction == 0 && biased != 1⟩

/-- The double of a number. -/
def Double.ofFloat (x : Float) : Double := Double.ofBits x.toBits

end OpenSql.Decimal
