/-
# OpenSql.Value — a single column value.

A value has one of five kinds.  Reals are kept by their bits, so that nothing of them is lost; they
are compared as numbers, so a value that is not a number differs from itself.
-/

namespace OpenSql

/-- A double-precision number by its bits. -/
structure Binary64 where
  bits : UInt64
deriving DecidableEq

namespace Binary64

/-- The bits of a number. -/
def ofFloat (x : Float) : Binary64 := ⟨x.toBits⟩

/-- The number of the bits. -/
def toFloat (x : Binary64) : Float := Float.ofBits x.bits

/-- Numbers are equal when they compare so: both zeros are one, and what is no number equals
nothing. -/
instance : BEq Binary64 := ⟨fun x y => x.toFloat == y.toFloat⟩

end Binary64

/-- A column value as a query returns it. -/
inductive Value where
  | null
  | integer (n : Int64)
  | real (x : Binary64)
  | text (s : String)
  | blob (bytes : List UInt8)
deriving BEq

namespace Value

/-- The value is absent. -/
def isNull : Value → Bool
  | .null => true
  | _ => false

/-- The text of a text value. -/
def asText? : Value → Option String
  | .text s => some s
  | _ => none

/-- The number of an integer value. -/
def asInteger? : Value → Option Int64
  | .integer n => some n
  | _ => none

/-- The number of a real or an integer value; a large integer goes to the nearest real. -/
def asReal? : Value → Option Binary64
  | .real x => some x
  | .integer n => some (.ofFloat n.toFloat)
  | _ => none

/-- The bytes of a binary value. -/
def asBlob? : Value → Option (List UInt8)
  | .blob bytes => some bytes
  | _ => none

end Value

end OpenSql
