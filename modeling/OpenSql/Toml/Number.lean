/-
# OpenSql.Toml.Number — numbers, dates and times of the TOML format.

Digits may be separated by single underscores.  A decimal integer has no leading zero, and no integer
exceeds 64 bits with a sign.  Dates must exist in the calendar; a minute may have a leap second.
-/
import OpenSql.Decimal.Digits
import OpenSql.Decimal.Nearest
import OpenSql.Text.Ascii
import OpenSql.Text.Hex
import OpenSql.Toml.Node

namespace OpenSql.Toml

/-! ## Digits -/

/-- Reads digits that follow a digit; an underscore must stand before a further digit. -/
def moreDigits? (isDigit : Char → Bool) : List Char → Option (List Char × List Char)
  | [] => some ([], [])
  | ['_'] => none
  | '_' :: d :: rest =>
    if isDigit d then (moreDigits? isDigit rest).map fun (ds, s) => (d :: ds, s) else none
  | c :: rest =>
    if isDigit c then (moreDigits? isDigit rest).map fun (ds, s) => (c :: ds, s)
    else some ([], c :: rest)

/-- Reads at least one digit, and digits with single underscores between them. -/
def readDigits? (isDigit : Char → Bool) : List Char → Option (List Char × List Char)
  | [] => none
  | c :: rest =>
    if isDigit c then (moreDigits? isDigit rest).map fun (ds, s) => (c :: ds, s) else none

/-- Reads a sign. -/
def readSign : List Char → Bool × List Char
  | '-' :: rest => (true, rest)
  | '+' :: rest => (false, rest)
  | s => (false, s)

/-- Reads the digits of a decimal integer: a single zero, or digits that do not start with one. -/
def readWhole? : List Char → Option (List Char × List Char)
  | '0' :: rest => some (['0'], rest)
  | s => readDigits? Char.isDigit s

/-- The number, if it fits 64 bits with a sign. -/
def fitting? (n : Int) : Option Int :=
  if -9223372036854775808 ≤ n ∧ n < 9223372036854775808 then some n else none

/-- Reads the digits of an integer in another base. -/
def readBased? (base : Nat) (s : List Char) : Option (Node × List Char) := do
  let (ds, rest) ← readDigits? (fun c => (Text.numberOfDigits? base [c]).isSome) s
  let n ← Text.numberOfDigits? base ds
  return (.integer (← fitting? n), rest)

/-- Reads an integer. -/
def readInteger? : List Char → Option (Node × List Char)
  | '0' :: 'x' :: rest => readBased? 16 rest
  | '0' :: 'o' :: rest => readBased? 8 rest
  | '0' :: 'b' :: rest => readBased? 2 rest
  | s => do
    let (negative, s) := readSign s
    let (ds, rest) ← readWhole? s
    let n : Int := Decimal.ofDigits ds
    return (.integer (← fitting? (if negative then -n else n)), rest)

/-! ## Reals -/

/-- Reads an exponent. -/
def readExponent? : List Char → Option (Int × List Char)
  | c :: rest =>
    if c = 'e' || c = 'E' then do
      let (negative, s) := readSign rest
      let (ds, after) ← readDigits? Char.isDigit s
      let n : Int := Decimal.ofDigits ds
      return (if negative then -n else n, after)
    else none
  | [] => none

/-- Reads a real with a fraction or an exponent; a positive one must be finite. -/
def readDecimal? (s : List Char) : Option (List Char) := do
  let (negative, s) := readSign s
  let (whole, s) ← readWhole? s
  let (fraction, exponent, rest) ← match s with
    | '.' :: after => do
      let (fraction, after) ← readDigits? Char.isDigit after
      match after with
      | 'e' :: _ | 'E' :: _ => (readExponent? after).map fun (n, rest) => (fraction, n, rest)
      | _ => some (fraction, 0, after)
    | _ => (readExponent? s).map fun (n, rest) => ([], n, rest)
  let ds := whole ++ fraction
  let x := Decimal.nearest (Decimal.ofDigits ds) ds.length (exponent - fraction.length)
  if x.isFinite || negative then some rest else none

/-- Reads an infinity or what is not a number. -/
def readSpecial? (s : List Char) : Option (List Char) :=
  let s := (readSign s).2
  match Text.dropExact? ['i', 'n', 'f'] s with
  | some rest => some rest
  | none => Text.dropExact? ['n', 'a', 'n'] s

/-- Reads a real. -/
def readReal? (s : List Char) : Option (Node × List Char) :=
  match readDecimal? s with
  | some rest => some (.real, rest)
  | none => (readSpecial? s).map (.real, ·)

/-! ## Dates and times -/

/-- Reads a number of exactly so many digits that lies between two bounds. -/
def readField? (count low high : Nat) (s : List Char) : Option (Nat × List Char) :=
  let ds := s.take count
  if ds.length = count ∧ ds.all Char.isDigit then
    let n := Decimal.ofDigits ds
    if low ≤ n ∧ n ≤ high then some (n, s.drop count) else none
  else none

/-- The number of days of a month. -/
def monthDays (year month : Nat) : Nat :=
  if month = 2 then
    if year % 4 = 0 ∧ (year % 100 ≠ 0 ∨ year % 400 = 0) then 29 else 28
  else if month = 4 ∨ month = 6 ∨ month = 9 ∨ month = 11 then 30
  else 31

/-- Reads a date. -/
def readDate? (s : List Char) : Option (List Char) := do
  let (year, s) ← readField? 4 0 9999 s
  let s ← Text.dropExact? ['-'] s
  let (month, s) ← readField? 2 1 12 s
  let s ← Text.dropExact? ['-'] s
  let (day, s) ← readField? 2 1 31 s
  if day ≤ monthDays year month then some s else none

/-- Reads a fraction of a second, if there is one. -/
def skipFraction : List Char → List Char
  | '.' :: c :: rest => if c.isDigit then rest.dropWhile Char.isDigit else '.' :: c :: rest
  | s => s

/-- Reads a time of day. -/
def readTime? (s : List Char) : Option (List Char) := do
  let (_, s) ← readField? 2 0 23 s
  let s ← Text.dropExact? [':'] s
  let (_, s) ← readField? 2 0 59 s
  let s ← Text.dropExact? [':'] s
  let (_, s) ← readField? 2 0 60 s
  return skipFraction s

/-- Reads the offset of a time zone, if there is one. -/
def skipOffset (s : List Char) : List Char :=
  match s with
  | 'Z' :: rest => rest
  | 'z' :: rest => rest
  | c :: rest =>
    if c = '+' || c = '-' then
      let offset? : Option (List Char) := do
        let (_, s) ← readField? 2 0 23 rest
        let s ← Text.dropExact? [':'] s
        let (_, s) ← readField? 2 0 59 s
        return s
      offset?.getD s
    else s
  | [] => []

/-- Reads a date, a time, or both. -/
def readDateTime? (s : List Char) : Option (Node × List Char) :=
  match readDate? s with
  | none => (readTime? s).map (.dateTime, ·)
  | some rest =>
    match rest with
    | c :: after =>
      if c = 'T' || c = 't' || c = ' ' then
        match readTime? after with
        | some rest => some (.dateTime, skipOffset rest)
        | none => some (.dateTime, rest)
      else some (.dateTime, rest)
    | [] => some (.dateTime, [])

/-- Reads what starts with a digit or a sign. -/
def readNumber? (s : List Char) : Option (Node × List Char) :=
  match readDateTime? s with
  | some result => some result
  | none => match readReal? s with
    | some result => some result
    | none => readInteger? s

end OpenSql.Toml
