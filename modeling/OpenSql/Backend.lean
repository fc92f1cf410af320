/-
# OpenSql.Backend — the seam between a session and a relational engine.

A backend works on a handle of its own type `H` in a world of type `W`, which outlives the handle: a
store of files, a queue of prepared answers.  Every call comes back with an answer or a fault, or
does not come back at all.  Transactions have calls of their own; a backend without primitives for
them runs `BEGIN`, `COMMIT` and `ROLLBACK` as scripts.
-/
import OpenSql.Event
import OpenSql.Row

namespace OpenSql

/-- How a call ends. -/
inductive Reply (α : Type) where
  | done (a : α)
  | failed (fault : Fault)
  /-- The call did not come back. -/
  | crashed

namespace Reply

/-- A reply with another answer. -/
def map (f : α → β) : Reply α → Reply β
  | done a => done (f a)
  | failed fault => failed fault
  | crashed => crashed

end Reply

/-- A relational engine. -/
structure Backend (H W : Type) where
  /-- The name of the database system. -/
  name : String
  openHandle : SessionConfig → W → Reply H × W
  /-- What the engine reports when it has opened a handle. -/
  openNotices : SessionConfig → List Notice := fun _ => []
  /-- Runs the statements of a script and throws their results away. -/
  executeBatch : String → H → W → Reply Unit × H × W
  /-- Runs one statement and gives the number of rows that it affected. -/
  execute : String → H → W → Reply UInt64 × H × W
  /-- Runs one query and gives its rows. -/
  query : String → H → W → Reply (List Row) × H × W
  begin : H → W → Reply Unit × H × W := executeBatch "BEGIN"
  commit : H → W → Reply Unit × H × W := executeBatch "COMMIT"
  rollback : H → W → Reply Unit × H × W := executeBatch "ROLLBACK"
  /-- A transaction is open on the handle. -/
  inTransaction : H → W → Bool
  /-- Gives the handle back. -/
  close : H → W → Reply Unit × W

end OpenSql
