/-
# OpenSql.Json.Printer — compact JSON text.

Nothing is written between tokens.  Only quotes, backslashes and control characters are escaped.  A
real has the fewest digits that read back and always a point or an exponent; one that is infinite or
not a number is written `null`.
-/
import OpenSql.Decimal.NumberFormat
import OpenSql.Text.Hex
import OpenSql.Json.Basic

namespace OpenSql.Json

open OpenSql (Decimal.NumberFormat)

/-- Reals are positional while the exponent of their first digit lies between -5 and 15; a larger
exponent has a plus sign, and a tie goes to the even digit. -/
def realFormat : Decimal.NumberFormat := ⟨some (-5, 15), 1, false, .toEven⟩

/-- The text of a real. -/
def realText (x : Float) : List Char :=
  match Decimal.Double.ofFloat x with
  | .finite negative magnitude => (realFormat.writeShortest negative magnitude).toList
  | _ => ['n', 'u', 'l', 'l']

/-- One character of a string. -/
def escapeChar (c : Char) : List Char :=
  if c = '\"' then ['\\', '\"']
  else if c = '\\' then ['\\', '\\']
  else if c = '\x08' then ['\\', 'b']
  else if c = '\x0c' then ['\\', 'f']
  else if c = '\n' then ['\\', 'n']
  else if c = '\r' then ['\\', 'r']
  else if c = '\t' then ['\\', 't']
  else if c.toNat < 0x20 then ['\\', 'u'] ++ Text.hexDigits 4 c.toNat
  else [c]

/-- A string between quotes. -/
def stringText (s : String) : List Char := '\"' :: s.toList.flatMap escapeChar ++ ['\"']

mutual

/-- The compact text of a value. -/
def print : Json → List Char
  | .null => ['n', 'u', 'l', 'l']
  | .bool true => ['t', 'r', 'u', 'e']
  | .bool false => ['f', 'a', 'l', 's', 'e']
  | .integer n => Decimal.signedDigits n
  | .real x => realText x
  | .string s => stringText s
  | .array elements => '[' :: printElements elements ++ [']']
  | .object members => '\x7b' :: printMembers members ++ ['\x7d']

/-- The elements of an array, with commas between them. -/
def printElements : List Json → List Char
  | [] => []
  | [x] => print x
  | x :: y :: rest => print x ++ ',' :: printElements (y :: rest)

/-- The members of an object, with commas between them. -/
def printMembers : List (String × Json) → List Char
  | [] => []
  | [(name, x)] => stringText name ++ ':' :: print x
  | (name, x) :: m :: rest => stringText name ++ ':' :: print x ++ ',' :: printMembers (m :: rest)

end

/-- The compact text of a value, as a string. -/
def text (x : Json) : String := String.ofList (print x)

end OpenSql.Json
