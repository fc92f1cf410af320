/-
# OpenSql.Decimal.Shortest — the fewest digits that read back as a given double.

For one digit, two digits, and so on, the two neighbours of the value on the grid of that many
digits are tested against the interval of numbers that round to the double, in exact arithmetic.
The first grid with a hit wins; of two hits the nearer one is taken, and a tie is the caller's
choice.  Seventeen digits always suffice.
-/
import OpenSql.Decimal.Double

namespace OpenSql.Decimal

/-- The number `coefficient · 10 ^ exponent`. -/
structure Scientific where
  coefficient : Nat
  exponent : Int
deriving DecidableEq

/-- Which of two equally near neighbours is taken. -/
inductive Tie where
  | toEven
  | up

/-- A value and its rounding interval over one denominator. -/
structure Interval where
  low : Nat
  value : Nat
  high : Nat
  denominator : Nat
  /-- The ends belong to the interval. -/
  closed : Bool

/-- The numbers that round to the magnitude: half way to both neighbours, the ends included when
the mantissa is even. -/
def Magnitude.interval (x : Magnitude) : Interval :=
  let below := if x.narrowBelow then 1 else 2
  let scale := Nat.pow 2 (x.exponent - 2).toNat
  ⟨(4 * x.mantissa - below) * scale, 4 * x.mantissa * scale, (4 * x.mantissa + 2) * scale,
    Nat.pow 2 (2 - x.exponent).toNat, x.mantissa % 2 == 0⟩

/-- The number of digits of a positive number; zero for zero. -/
def digitCount (n : Nat) : Nat := if n = 0 then 0 else digitCount (n / 10) + 1

/-- The least `d` with `value / denominator < 10 ^ d`. -/
def Interval.magnitude (i : Interval) : Int :=
  if i.denominator ≤ i.value then digitCount (i.value / i.denominator)
  else 1 - digitCount ((i.denominator + i.value - 1) / i.value - 1)

/-- The nearest number with `count` digits that lies in the interval, if there is one. -/
def Interval.nearest? (i : Interval) (tie : Tie) (count : Nat) : Option Scientific :=
  let exponent := i.magnitude - count
  let grid := i.denominator * Nat.pow 10 exponent.toNat
  let scale := Nat.pow 10 (-exponent).toNat
  let lower := i.value * scale / grid
  let rest := i.value * scale % grid
  let inside (c : Nat) : Bool :=
    let n := c * grid
    if i.closed then i.low * scale ≤ n && n ≤ i.high * scale
    else i.low * scale < n && n < i.high * scale
  let upFirst : Bool := match tie with
    | .up => grid ≤ 2 * rest
    | .toEven => grid < 2 * rest || (grid == 2 * rest && lower % 2 == 1)
  let (first, second) := if upFirst then (lower + 1, lower) else (lower, lower + 1)
  if inside first then some ⟨first, exponent⟩
  else if inside second then some ⟨second, exponent⟩
  else none

/-- The coefficient without trailing zeros. -/
def Scientific.normal (fuel : Nat) (x : Scientific) : Scientific :=
  match fuel with
  | 0 => x
  | n + 1 =>
    if x.coefficient != 0 && x.coefficient % 10 == 0 then
      Scientific.normal n ⟨x.coefficient / 10, x.exponent + 1⟩
    else x

/-- The shortest decimal number that rounds to the magnitude. -/
def Magnitude.shortest (tie : Tie) (x : Magnitude) : Scientific :=
  if x.mantissa = 0 then ⟨0, 0⟩
  else
    match (List.range' 1 17).findSome? (x.interval.nearest? tie) with
    | some s => s.normal 20
    | none => ⟨0, 0⟩

/-- The decimal number of `count` digits nearest to the magnitude, halves going up. -/
def Magnitude.rounded (count : Nat) (x : Magnitude) : Scientific :=
  if x.mantissa = 0 then ⟨0, 0⟩
  else
    let i := x.interval
    let exponent := i.magnitude - count
    let grid := i.denominator * Nat.pow 10 exponent.toNat
    let scale := Nat.pow 10 (-exponent).toNat
    Scientific.normal 20 ⟨(2 * i.value * scale + grid) / (2 * grid), exponent⟩

end OpenSql.Decimal
