/-
# OpenSql.Transactions — the transaction bookkeeping of a session.

The bookkeeping says whether a transaction is open and how many statements it has seen.  It is only a
copy of what the backend knows: every operation first observes the backend's own flag, because a
script may have opened or ended a transaction on its own.

The operations run on a `Line`: one handle in its world, with the bookkeeping for it and the events so
far.  When a call does not come back, everything done up to it stays done.
-/
import OpenSql.Backend

namespace OpenSql

/-- What a session believes about the transaction of its handle. -/
structure Transactions where
  active : Bool := false
  /-- The statements of the transaction so far.  The count has no bound: one of 64 bits would first differ
  from it after 2^64 statements, which are out of reach. -/
  statements : Nat := 0
deriving DecidableEq

instance : Inhabited Transactions := ⟨{}⟩

namespace Transactions

/-- No transaction. -/
def idle : Transactions := {}

/-- Takes over the backend's flag; the count starts anew when the flag has changed. -/
def observe (t : Transactions) (inTransaction : Bool) : Transactions :=
  if t.active == inTransaction then t else ⟨inTransaction, 0⟩

/-- Counts a statement when a transaction is open. -/
def count (t : Transactions) : Transactions :=
  if t.active then { t with statements := t.statements + 1 } else t

/-- The state in one word. -/
def stateName (t : Transactions) : String := if t.active then "Active" else "Inactive"

@[simp]
theorem active_observe (t : Transactions) (flag : Bool) : (t.observe flag).active = flag := by
  unfold observe
  split
  · next h => simpa using h
  · rfl

end Transactions

/-- Why an operation ends without a result. -/
inductive Stop where
  | error (error : DbError)
  /-- A call to the backend did not come back. -/
  | crash

/-- A handle in its world, with its bookkeeping and the events so far. -/
structure Line (H W : Type) where
  transactions : Transactions
  handle : H
  world : W
  events : List Event := []

/-- An operation on a line. -/
abbrev LineM (H W : Type) := ExceptT Stop (StateM (Line H W))

namespace Line

/-- Reports something that happened. -/
def emit (event : Event) : LineM H W Unit :=
  modify fun line => { line with events := line.events ++ [event] }

/-- Reports a notice. -/
def note (notice : Notice) : LineM H W Unit := emit (.notice notice)

/-- Makes a call and hands a fault to the caller. -/
def attempt (call : Call) (run : H → W → Reply α × H × W) : LineM H W (Except Fault α) := do
  emit (.call call)
  let line ← get
  let (reply, handle, world) := run line.handle line.world
  set { line with handle, world }
  match reply with
  | .done a => return .ok a
  | .failed fault => return .error fault
  | .crashed => throw .crash

/-- Makes a call whose fault ends the operation. -/
def ask (call : Call) (run : H → W → Reply α × H × W) : LineM H W α := do
  match ← attempt call run with
  | .ok a => return a
  | .error fault => throw (.error (.backend fault))

/-- Observes the backend's flag. -/
def sync (b : Backend H W) : LineM H W Unit :=
  modify fun line =>
    { line with
      transactions := line.transactions.observe (b.inTransaction line.handle line.world) }

/-- Forgets any transaction. -/
def reset : LineM H W Unit := modify fun line => { line with transactions := .idle }

/-- Counts a statement that has run. -/
def record (b : Backend H W) : LineM H W Unit := do
  sync b
  modify fun line => { line with transactions := line.transactions.count }

/-- Opens a transaction; nothing happens when one is open. -/
def begin (b : Backend H W) : LineM H W Unit := do
  sync b
  if (← get).transactions.active then note .beginIgnored
  else
    ask .begin b.begin
    modify fun line => { line with transactions := ⟨true, 0⟩ }
    note .started

/-- Commits the open transaction; without one the backend is left alone. -/
def commit (b : Backend H W) : LineM H W Unit := do
  sync b
  if (← get).transactions.active then
    ask .commit b.commit
    note (.committed (← get).transactions.statements)
    reset

/-- Rolls the open transaction back; without one the backend is left alone.  The bookkeeping follows
the backend's flag even when the call fails. -/
def rollback (b : Backend H W) : LineM H W Unit := do
  sync b
  if (← get).transactions.active then
    let result ← attempt .rollback b.rollback
    note (.rolledBack (← get).transactions.statements)
    sync b
    match result with
    | .ok () => return ()
    | .error fault => throw (.error (.backend fault))

/-- Closes the line: the handle is gone whatever the backend answers. -/
def close (b : Backend H W) : LineM H W (Except Fault Unit) :=
  attempt .close fun handle world =>
    let (reply, world) := b.close handle world
    (reply, handle, world)

end Line

end OpenSql
