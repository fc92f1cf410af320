/-
# OpenSql.Json.Reader — values from JSON text.

The reader accepts exactly the grammar of RFC 8259 for texts nested at most 127 deep whose numbers
are finite.  It keeps the order of members and their repetitions.  An escaped pair of surrogates is
one character; a lone surrogate is refused.

The readers of nested values take fuel; every nested value takes at least one character, so the
length of the text is enough.
-/
import OpenSql.Decimal.Digits
import OpenSql.Decimal.Nearest
import OpenSql.Text.Ascii
import OpenSql.Text.Hex
import OpenSql.Json.Basic

namespace OpenSql.Json

/-- White space between tokens. -/
def isSpace (c : Char) : Bool := c = ' ' || c = '\t' || c = '\n' || c = '\r'

/-- The text after its white space. -/
def skipSpace (s : List Char) : List Char := s.dropWhile isSpace

/-- Reads four hexadecimal digits. -/
def readUnit? : List Char → Option (Nat × List Char)
  | a :: b :: c :: d :: rest => (Text.numberOfDigits? 16 [a, b, c, d]).map (·, rest)
  | _ => none

/-- Reads what follows `\u`: four digits, or a pair of surrogates. -/
def readEscapedChar? (s : List Char) : Option (Char × List Char) := do
  let (high, s) ← readUnit? s
  if 0xD800 ≤ high ∧ high ≤ 0xDBFF then
    let s ← Text.dropExact? ['\\', 'u'] s
    let (low, s) ← readUnit? s
    if 0xDC00 ≤ low ∧ low ≤ 0xDFFF then
      some (Char.ofNat (0x10000 + (high - 0xD800) * 0x400 + (low - 0xDC00)), s)
    else none
  else if 0xDC00 ≤ high ∧ high ≤ 0xDFFF then none
  else some (Char.ofNat high, s)

/-- The character that a letter after a backslash stands for. -/
def shortEscape? : Char → Option Char
  | '\"' => some '\"'
  | '\\' => some '\\'
  | '/' => some '/'
  | 'b' => some '\x08'
  | 'f' => some '\x0c'
  | 'n' => some '\n'
  | 'r' => some '\r'
  | 't' => some '\t'
  | _ => none

/-- Reads the rest of a string, up to and with the closing quote. -/
def readString? (fuel : Nat) (s : List Char) : Option (List Char × List Char) :=
  match fuel, s with
  | 0, _ => none
  | _, [] => none
  | fuel + 1, c :: rest =>
    if c = '\"' then some ([], rest)
    else if c = '\\' then
      match rest with
      | [] => none
      | e :: after =>
        if e = 'u' then do
          let (x, after) ← readEscapedChar? after
          let (xs, after) ← readString? fuel after
          some (x :: xs, after)
        else do
          let x ← shortEscape? e
          let (xs, after) ← readString? fuel after
          some (x :: xs, after)
    else if c.toNat < 0x20 then none
    else do
      let (xs, after) ← readString? fuel rest
      some (c :: xs, after)

/-- The double nearest to `coefficient · 10 ^ exponent`, if it is finite. -/
def finite? (negative : Bool) (coefficient digitCount : Nat) (exponent : Int) : Option Float :=
  let x := Decimal.nearest coefficient digitCount exponent
  if x.isFinite then some (if negative then -x else x) else none

/-- Reads the sign and the digits of an exponent. -/
def readExponent? (s : List Char) : Option (Int × List Char) :=
  let (negative, s) := match s with
    | '-' :: rest => (true, rest)
    | '+' :: rest => (false, rest)
    | _ => (false, s)
  let ds := s.takeWhile Char.isDigit
  if ds.isEmpty then none
  else
    let n := Decimal.ofDigits ds
    some (if negative then -(n : Int) else n, s.dropWhile Char.isDigit)

/-- The number that an unsigned integer part, a fraction and an exponent denote.  Without fraction
and exponent it is an integer while it fits 64 bits. -/
def number? (negative : Bool) (whole fraction : List Char) (exponent : Option Int) :
    Option Json :=
  if fraction.isEmpty && exponent.isNone then
    let n := Decimal.ofDigits whole
    if !negative && n < 18446744073709551616 then some (.integer n)
    else if negative && 0 < n && n ≤ 9223372036854775808 then some (.integer (-n))
    else (finite? negative n whole.length 0).map .real
  else
    let ds := whole ++ fraction
    (finite? negative (Decimal.ofDigits ds) ds.length
      (exponent.getD 0 - fraction.length)).map .real

/-- Reads a number. -/
def readNumber? (s : List Char) : Option (Json × List Char) := do
  let (negative, s) := match s with
    | '-' :: rest => (true, rest)
    | _ => (false, s)
  let whole := s.takeWhile Char.isDigit
  let s := s.dropWhile Char.isDigit
  if whole.isEmpty || (whole.length != 1 && whole.head? == some '0') then none
  else
    let (fraction, s) ← match s with
      | '.' :: rest =>
        let ds := rest.takeWhile Char.isDigit
        if ds.isEmpty then none else some (ds, rest.dropWhile Char.isDigit)
      | _ => some ([], s)
    let (exponent, s) ← match s with
      | 'e' :: rest => (readExponent? rest).map fun (n, r) => (some n, r)
      | 'E' :: rest => (readExponent? rest).map fun (n, r) => (some n, r)
      | _ => some (none, s)
    let x ← number? negative whole fraction exponent
    some (x, s)

mutual

/-- Reads one value that may hold values nested `depth` deep. -/
def readValue? (fuel depth : Nat) (s : List Char) : Option (Json × List Char) :=
  match fuel, skipSpace s with
  | 0, _ => none
  | _, [] => none
  | fuel + 1, c :: rest =>
    if c = '[' then
      match depth with
      | 0 => none
      | depth + 1 =>
        match skipSpace rest with
        | ']' :: after => some (.array [], after)
        | _ => do
          let (xs, after) ← readElements? fuel depth rest
          some (.array xs, after)
    else if c = '\x7b' then
      match depth with
      | 0 => none
      | depth + 1 =>
        match skipSpace rest with
        | '\x7d' :: after => some (.object [], after)
        | _ => do
          let (ms, after) ← readMembers? fuel depth rest
          some (.object ms, after)
    else if c = '\"' then do
      let (x, after) ← readString? (rest.length + 1) rest
      some (.string (String.ofList x), after)
    else if c = 'n' then (Text.dropExact? ['u', 'l', 'l'] rest).map (.null, ·)
    else if c = 't' then (Text.dropExact? ['r', 'u', 'e'] rest).map (.bool true, ·)
    else if c = 'f' then (Text.dropExact? ['a', 'l', 's', 'e'] rest).map (.bool false, ·)
    else readNumber? (c :: rest)

/-- Reads elements with commas between them, up to and with the closing bracket. -/
def readElements? (fuel depth : Nat) (s : List Char) : Option (List Json × List Char) :=
  match fuel with
  | 0 => none
  | fuel + 1 => do
    let (x, s) ← readValue? fuel depth s
    match skipSpace s with
    | ',' :: rest => do
      let (xs, after) ← readElements? fuel depth rest
      some (x :: xs, after)
    | ']' :: after => some ([x], after)
    | _ => none

/-- Reads members with commas between them, up to and with the closing brace. -/
def readMembers? (fuel depth : Nat) (s : List Char) :
    Option (List (String × Json) × List Char) :=
  match fuel with
  | 0 => none
  | fuel + 1 =>
    match skipSpace s with
    | '\"' :: rest => do
      let (name, s) ← readString? (rest.length + 1) rest
      match skipSpace s with
      | ':' :: s => do
        let (x, s) ← readValue? fuel depth s
        match skipSpace s with
        | ',' :: rest => do
          let (ms, after) ← readMembers? fuel depth rest
          some ((String.ofList name, x) :: ms, after)
        | '\x7d' :: after => some ([(String.ofList name, x)], after)
        | _ => none
      | _ => none
    | _ => none

end

/-- The deepest nesting that is read. -/
def depthLimit : Nat := 127

/-- The value of a text. -/
def read? (s : List Char) : Option Json :=
  match readValue? (2 * s.length + 2) depthLimit s with
  | some (x, rest) => if (skipSpace rest).isEmpty then some x else none
  | none => none

end OpenSql.Json
