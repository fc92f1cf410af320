/-
# OpenSql.Engine.Cell — values as the engine stores and compares them.

A text is kept by its bytes, which need not be well-formed: a cast from a blob may produce any.  Cells
are ordered across kinds: null, then numbers, then texts, then blobs.  Integers and reals are compared
as numbers without loss; texts and blobs byte by byte.
-/
import OpenSql.Text.Utf8
import OpenSql.Value

namespace OpenSql.Engine

/-- A stored value. -/
inductive Cell where
  | null
  | integer (n : Int64)
  | real (x : Float)
  | text (bytes : List UInt8)
  | blob (bytes : List UInt8)
deriving Inhabited

namespace Cell

/-- The cell of a text. -/
def ofString (s : String) : Cell := text (Text.encodeUtf8 s)

/-- The cell of a truth value. -/
def ofBool (b : Bool) : Cell := integer (if b then 1 else 0)

/-- The cell of a real; what is not a number is null. -/
def ofFloat (x : Float) : Cell := if x.isNaN then null else real x

/-- The cell is null. -/
def isNull : Cell → Bool
  | null => true
  | _ => false

/-- The value that a query returns for the cell. -/
def toValue : Cell → Value
  | null => .null
  | integer n => .integer n
  | real x => .real (.ofFloat x)
  | text bytes => .text (Text.decodeUtf8Lossy bytes)
  | blob bytes => .blob bytes

/-! ## Order -/

/-- The order of two texts or two blobs: by bytes, a shorter one before its extensions. -/
def compareBytes : List UInt8 → List UInt8 → Ordering
  | [], [] => .eq
  | [], _ :: _ => .lt
  | _ :: _, [] => .gt
  | a :: as, b :: bs => if a < b then .lt else if b < a then .gt else compareBytes as bs

/-- The order of two reals that are numbers. -/
def compareReals (x y : Float) : Ordering := if x < y then .lt else if y < x then .gt else .eq

/-- The order of an integer and a real: by the whole part of the real, and then by its fraction. -/
def compareMixed (n : Int64) (x : Float) : Ordering :=
  if x < -9223372036854775808.0 then .gt
  else if 9223372036854775808.0 ≤ x then .lt
  else
    let whole := x.toInt64
    if n < whole then .lt
    else if whole < n then .gt
    else compareReals n.toFloat x

/-- The place of a kind in the order of kinds. -/
def kindRank : Cell → Nat
  | null => 0
  | integer _ => 1
  | real _ => 1
  | text _ => 2
  | blob _ => 3

/-- The order of cells. -/
def compare : Cell → Cell → Ordering
  | integer a, integer b => if a < b then .lt else if b < a then .gt else .eq
  | integer a, real y => compareMixed a y
  | real x, integer b => (compareMixed b x).swap
  | real x, real y => compareReals x y
  | text a, text b => compareBytes a b
  | blob a, blob b => compareBytes a b
  | a, b => if a.kindRank < b.kindRank then .lt else if b.kindRank < a.kindRank then .gt else .eq

end Cell

end OpenSql.Engine
