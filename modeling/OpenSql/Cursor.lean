/-
# OpenSql.Cursor — paging through a finished result.

A cursor holds all rows of a query.  Each fetch hands out the rows between the offset and the offset
moved by the page size; the offset moves by the whole page size even when fewer rows are left, and
stops at the greatest word.
-/
import OpenSql.Error
import OpenSql.Row

namespace OpenSql

/-- A cursor over the rows of a query. -/
structure Cursor where
  rows : Array Row
  offset : UInt64
  isOpen : Bool

namespace Cursor

/-- The greatest offset. -/
def maxOffset : Nat := 18446744073709551615

/-- The sum of two offsets, cut down to the greatest. -/
def saturatingAdd (a b : UInt64) : UInt64 := UInt64.ofNat (min (a.toNat + b.toNat) maxOffset)

/-- An open cursor at the first row. -/
def ofRows (rows : List Row) : Cursor := ⟨rows.toArray, 0, true⟩

/-- The number of rows. -/
def total (c : Cursor) : Nat := c.rows.size

/-- All rows have been handed out. -/
def isExhausted (c : Cursor) : Bool := c.total ≤ c.offset.toNat

/-- The places of the first row of a page and of the row behind its last. -/
def bounds (c : Cursor) (pageSize : UInt64) : Nat × Nat :=
  (min c.offset.toNat c.total, min (saturatingAdd c.offset pageSize).toNat c.total)

/-- The next page, and the cursor behind it. -/
def fetch (c : Cursor) (pageSize : UInt64) : Except DbError (List Row) × Cursor :=
  if c.isOpen then
    let (start, stop) := c.bounds pageSize
    (.ok (c.rows.extract start stop).toList,
      { c with offset := saturatingAdd c.offset pageSize })
  else (.error .cursorClosed, c)

/-- The closed cursor; closing twice is allowed. -/
def close (c : Cursor) : Cursor := { c with isOpen := false }

end Cursor

end OpenSql
