/-
# OpenSql.Engine.Numeral — numbers in texts, and texts of numbers.

A text is read as a number as far as it is one: white space, a sign, digits, a point, an exponent.  It
may be a number as a whole, or only begin with one, or not even that.  A real is written with at most
fifteen digits and always with a point.
-/
import OpenSql.Decimal.Nearest
import OpenSql.Decimal.NumberFormat
import OpenSql.Engine.Cell

namespace OpenSql.Engine

/-- White space around numbers in texts. -/
def isSpaceByte (b : UInt8) : Bool := b == 0x20 || (0x09 ≤ b && b ≤ 0x0D)

/-- A decimal digit. -/
def isDigitByte (b : UInt8) : Bool := 0x30 ≤ b && b ≤ 0x39

/-- The number of a list of digits. -/
def ofDigitBytes (ds : List UInt8) : Nat := ds.foldl (fun n d => n * 10 + (d.toNat - 0x30)) 0

/-- The number at the front of a text. -/
structure Numeral where
  negative : Bool
  whole : List UInt8
  fraction : List UInt8
  exponent : Int
  hasPoint : Bool
  hasExponent : Bool
  /-- The exponent, if there is one, has digits. -/
  exponentIsValid : Bool
  /-- Nothing but white space follows. -/
  complete : Bool

namespace Numeral

/-- Reads a sign. -/
def readSign : List UInt8 → Bool × List UInt8
  | 0x2D :: rest => (true, rest)
  | 0x2B :: rest => (false, rest)
  | s => (false, s)

/-- Reads the number at the front of a text. -/
def read (s : List UInt8) : Numeral :=
  let (negative, s) := readSign (s.dropWhile isSpaceByte)
  let whole := s.takeWhile isDigitByte
  let s := s.dropWhile isDigitByte
  let (hasPoint, fraction, s) := match s with
    | 0x2E :: rest => (true, rest.takeWhile isDigitByte, rest.dropWhile isDigitByte)
    | _ => (false, [], s)
  let (hasExponent, exponent, valid, s) := match s with
    | e :: rest =>
      if e == 0x65 || e == 0x45 then
        let (below, rest) := readSign rest
        let ds := rest.takeWhile isDigitByte
        let n : Int := ofDigitBytes ds
        (true, if below then -n else n, !ds.isEmpty, rest.dropWhile isDigitByte)
      else (false, 0, true, s)
    | [] => (false, 0, true, s)
  ⟨negative, whole, fraction, exponent, hasPoint, hasExponent, valid,
    (s.dropWhile isSpaceByte).isEmpty⟩

/-- The text has digits before its exponent. -/
def hasDigits (x : Numeral) : Bool := !(x.whole.isEmpty && x.fraction.isEmpty)

/-- The text as a whole is a number. -/
def isNumber (x : Numeral) : Bool := x.hasDigits && x.exponentIsValid && x.complete

/-- The number has a point or an exponent. -/
def isDecimal (x : Numeral) : Bool := x.hasPoint || x.hasExponent

/-- The front of the text is a number with a point or with an exponent. -/
def beginsDecimal (x : Numeral) : Bool :=
  x.hasDigits && x.isDecimal && (x.exponentIsValid || (x.hasPoint && x.hasExponent))

/-- The real nearest to the number. -/
def toFloat (x : Numeral) : Float :=
  let ds := x.whole ++ x.fraction
  let exponent := if x.exponentIsValid then x.exponent else 0
  let y := Decimal.nearest (ofDigitBytes ds) (ds.dropWhile (· == 0x30)).length
    (exponent - x.fraction.length)
  if x.negative then -y else y

/-- The integer of the whole part. -/
def toInt (x : Numeral) : Int :=
  let n : Int := ofDigitBytes x.whole
  if x.negative then -n else n

/-- The integer of the whole part, if it fits. -/
def toInt64? (x : Numeral) : Option Int64 :=
  if -9223372036854775808 ≤ x.toInt ∧ x.toInt < 9223372036854775808 then
    some (Int64.ofInt x.toInt)
  else none

/-- The integer of the whole part, cut down to what fits. -/
def toInt64Clamped (x : Numeral) : Int64 :=
  Int64.ofInt (max (-9223372036854775808) (min 9223372036854775807 x.toInt))

end Numeral

/-- The integer that a real is, if it is one well within range. -/
def integral? (x : Float) : Option Int64 :=
  if -9223372036854775808.0 < x ∧ x < 9223372036854775807.0 then
    let n := x.toInt64
    if n.toFloat == x then some n else none
  else none

/-- Reals are written positionally while the exponent of their first digit lies between -4 and 14. -/
def realFormat : Decimal.NumberFormat := ⟨some (-4, 14), 2, true, .up⟩

/-- The number of digits of a real in a text. -/
def realDigits : Nat := 15

/-- The text of a real. -/
def realText (x : Float) : String :=
  match Decimal.Double.ofFloat x with
  | .notANumber => ""
  | .infinite true => "-Inf"
  | .infinite false => "Inf"
  | .finite negative magnitude =>
    let digits := String.ofList (realFormat.write (magnitude.rounded realDigits))
    if negative && magnitude.mantissa != 0 then "-" ++ digits else digits

/-- The text of an integer. -/
def integerText (n : Int64) : String := Decimal.signedText n.toInt

namespace Cell

/-- The bytes of a cell read as a text; none for null. -/
def textBytes? : Cell → Option (List UInt8)
  | null => none
  | integer n => some (Text.encodeUtf8 (integerText n))
  | real x => some (Text.encodeUtf8 (realText x))
  | text bytes => some bytes
  | blob bytes => some bytes

/-- A cell as a number: a text or a blob stands for the number at its front, or for zero. -/
def toNumber : Cell → Cell
  | text bytes => ofNumeral (Numeral.read bytes)
  | blob bytes => ofNumeral (Numeral.read bytes)
  | c => c
where
  /-- A decimal number is a real; any other is an integer, if it fits. -/
  ofNumeral (x : Numeral) : Cell :=
    if x.beginsDecimal then real x.toFloat
    else match x.toInt64? with
      | some n => integer n
      | none => real x.toFloat

/-- A cell as an integer, cut down to what fits. -/
def toInteger : Cell → Int64
  | null => 0
  | integer n => n
  | real x => x.toInt64
  | text bytes => (Numeral.read bytes).toInt64Clamped
  | blob bytes => (Numeral.read bytes).toInt64Clamped

/-- A cell as a real. -/
def toReal : Cell → Float
  | null => 0.0
  | integer n => n.toFloat
  | real x => x
  | text bytes => (Numeral.read bytes).toFloat
  | blob bytes => (Numeral.read bytes).toFloat

/-- The truth value of a cell; none for null. -/
def truth? : Cell → Option Bool
  | null => none
  | integer n => some (n != 0)
  | c => some (c.toReal != 0.0)

end Cell

end OpenSql.Engine
