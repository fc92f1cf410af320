/-
# OpenSql.Engine.Affinity — the kinds that columns prefer.

The type of a column is a free text; what matters of it is the affinity that it shows.  A value that
is stored is first moved towards the affinity of its column, and the sides of a comparison are moved
towards the affinity of one of them.
-/
import OpenSql.Engine.Numeral
import OpenSql.Text.Ascii

namespace OpenSql.Engine

/-- What a column prefers. -/
inductive Affinity where
  | blob
  | text
  | numeric
  | integer
  | real
deriving DecidableEq

namespace Affinity

/-- Whether the affinity prefers numbers. -/
def isNumeric : Affinity → Bool
  | blob => false
  | text => false
  | _ => true

/-- The affinity that the name of a type shows; no type shows none. -/
def ofTypeName (name : List Char) : Affinity :=
  let s := Text.lower name
  let mentions (word : String) : Bool := Text.containsExact word.toList s
  if s.isEmpty then blob
  else if mentions "int" then integer
  else if mentions "char" || mentions "clob" || mentions "text" then text
  else if mentions "blob" then blob
  else if mentions "real" || mentions "floa" || mentions "doub" then real
  else numeric

/-- A text that is a number, as that number. -/
def numberOfText (bytes : List UInt8) : Cell :=
  let x := Numeral.read bytes
  if !x.isNumber then .text bytes
  else if x.isDecimal then
    match integral? x.toFloat with
    | some n => .integer n
    | none => .real x.toFloat
  else match x.toInt64? with
    | some n => .integer n
    | none => .real x.toFloat

/-- Moves a cell towards numbers, and whole reals towards integers. -/
def towardsNumber : Cell → Cell
  | .text bytes => numberOfText bytes
  | .real x => match integral? x with
    | some n => .integer n
    | none => .real x
  | c => c

/-- Moves a cell towards the affinity. -/
def apply (a : Affinity) (c : Cell) : Cell :=
  match a with
  | blob => c
  | text => match c with
    | .integer n => .ofString (integerText n)
    | .real x => .ofString (realText x)
    | c => c
  | numeric => towardsNumber c
  | integer => towardsNumber c
  | real => match towardsNumber c with
    | .integer n => .real n.toFloat
    | c => c

/-- Converts a cell to the kind of the affinity, whatever is lost. -/
def cast (a : Affinity) (c : Cell) : Cell :=
  if c.isNull then .null
  else match a with
    | blob => .blob (c.textBytes?.getD [])
    | text => .text (c.textBytes?.getD [])
    | integer => .integer c.toInteger
    | real => .real c.toReal
    | numeric => match c.toNumber with
      | .real x => match c with
        | .real y => .real y
        | _ => towardsNumber (.real x)
      | n => n

/-- The affinity of a comparison between sides with the given affinities, if they have any. -/
def forComparison : Option Affinity → Option Affinity → Affinity
  | some a, some b => if a.isNumeric || b.isNumeric then numeric else blob
  | some a, none => a
  | none, some b => b
  | none, none => blob

/-- Moves the two sides of a comparison towards the affinity.  A side becomes a number only from a
text, and a text only when the other side is one. -/
def applyToSides (a : Affinity) (x y : Cell) : Cell × Cell :=
  let isText : Cell → Bool
    | .text _ => true
    | _ => false
  let number : Cell → Cell
    | .text bytes => numberOfText bytes
    | c => c
  if a.isNumeric then (number x, number y)
  else if a = text && (isText x || isText y) then (text.apply x, text.apply y)
  else (x, y)

end Affinity

end OpenSql.Engine
