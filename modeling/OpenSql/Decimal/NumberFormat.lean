/-
# OpenSql.Decimal.NumberFormat — decimal numbers as text.

A `NumberFormat` holds what a format decides about a number: which exponents are written positionally,
whether a positional number always has a point, and how an exponent is written.
-/
import OpenSql.Decimal.Digits
import OpenSql.Decimal.Shortest

namespace OpenSql.Decimal

/-- A format's decisions about the text of a finite number. -/
structure NumberFormat where
  /-- The exponents `low ≤ e ≤ high` of the first digit that are written positionally;
  `none` for all of them. -/
  positional : Option (Int × Int)
  /-- The least number of digits of an exponent. -/
  exponentDigits : Nat
  /-- A scientific coefficient of one digit is followed by `.0`. -/
  pointInScientific : Bool
  tie : Tie

/-- The digits with a point such that `exponent` digits stand after it; `.0` follows an integer. -/
def positionalText (digits : List Char) (exponent : Int) : List Char :=
  if 0 ≤ exponent then digits ++ List.replicate exponent.toNat '0' ++ ['.', '0']
  else
    let after := (-exponent).toNat
    if after < digits.length then
      digits.take (digits.length - after) ++ '.' :: digits.drop (digits.length - after)
    else ['0', '.'] ++ List.replicate (after - digits.length) '0' ++ digits

/-- The digits with a point after the first, and the power of ten; an exponent has a sign. -/
def NumberFormat.scientificText (f : NumberFormat) (digits : List Char) (power : Int) : List Char :=
  let fraction := digits.drop 1
  let point := if fraction.isEmpty then (if f.pointInScientific then ['.', '0'] else [])
    else '.' :: fraction
  let exponent := Decimal.digits power.natAbs
  digits.take 1 ++ point ++ ['e', if power < 0 then '-' else '+'] ++
    List.replicate (f.exponentDigits - exponent.length) '0' ++ exponent

/-- The text of a decimal number. -/
def NumberFormat.write (f : NumberFormat) (x : Scientific) : List Char :=
  let ds := digits x.coefficient
  let power := x.exponent + ds.length - 1
  let inRange := match f.positional with
    | none => true
    | some (low, high) => low ≤ power && power ≤ high
  if inRange || x.coefficient == 0 then positionalText ds x.exponent
  else f.scientificText ds power

/-- The text of a finite double, in the fewest digits that read back. -/
def NumberFormat.writeShortest (f : NumberFormat) (negative : Bool) (x : Magnitude) : String :=
  String.ofList ((if negative then ['-'] else []) ++ f.write (x.shortest f.tie))

end OpenSql.Decimal
