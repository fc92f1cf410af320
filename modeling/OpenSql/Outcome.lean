/-
# OpenSql.Outcome — the status of a mutation.

A mutation never fails towards its caller: a fault and a mutation that meets no row both have return
code 4 and count 0.
-/

namespace OpenSql

/-- The return code and the number of affected rows of an insertion, update or deletion. -/
structure Outcome where
  subrc : Int32
  dbcnt : Int64
deriving DecidableEq

namespace Outcome

/-- The greatest count that an outcome can report. -/
def maxCount : Nat := 9223372036854775807

/-- Success with the given number of rows. -/
def ok (count : Int64) : Outcome := ⟨0, count⟩

/-- No row was affected. -/
def notFound : Outcome := ⟨4, 0⟩

instance : Inhabited Outcome := ⟨ok 0⟩

/-- The outcome for a number of affected rows, which is cut down to the greatest count. -/
def ofCount (count : UInt64) : Outcome :=
  if count = 0 then notFound else ok (Int64.ofNat (min count.toNat maxCount))

/-- The mutation succeeded. -/
def isOk (o : Outcome) : Bool := o.subrc == 0

/-- The mutation affected no row. -/
def isNotFound (o : Outcome) : Bool := o.subrc == 4

end Outcome

end OpenSql
