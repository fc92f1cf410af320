/-
# OpenSql.Scripted — a backend that answers from prepared replies.

Each call takes the next reply of a queue; when the queue is empty the call succeeds.  The handle is
a single flag, "in a transaction", which follows the texts of scripts unless a reply sets it.
-/
import OpenSql.Backend

namespace OpenSql.Scripted

/-- A prepared reply to one call. -/
structure Prepared where
  /-- The call does not come back. -/
  crashes : Bool := false
  /-- The transaction flag after the call. -/
  inTransaction : Option Bool := none
  fault : Option Fault := none
  count : UInt64 := 0
  rows : List Row := []

/-- A handle: the transaction flag. -/
structure Handle where
  inTransaction : Bool := false

/-- The replies that are left. -/
abbrev Queue := List Prepared

/-- The flag after a script has succeeded. -/
def flagAfter (sql : String) (flag : Bool) : Bool :=
  if sql == "BEGIN" then true
  else if sql == "COMMIT" || sql == "ROLLBACK" then false
  else flag

/-- Takes the next reply. -/
def next : Queue → Prepared × Queue
  | [] => ({}, [])
  | reply :: rest => (reply, rest)

/-- Answers a call on a handle.  A reply that sets the flag does so even when it is a fault. -/
def answer (success : Prepared → α) (unprompted : Bool → Bool) (handle : Handle) (queue : Queue) :
    Reply α × Handle × Queue :=
  let (reply, rest) := next queue
  if reply.crashes then (.crashed, handle, rest)
  else
    let set := reply.inTransaction.getD handle.inTransaction
    match reply.fault with
    | some fault => (.failed fault, ⟨set⟩, rest)
    | none =>
      let flag := if reply.inTransaction.isSome then set else unprompted set
      (.done (success reply), ⟨flag⟩, rest)

/-- The backend. -/
def backend : Backend Handle Queue where
  name := "mock"
  openHandle _ queue :=
    let (reply, handle, rest) := answer (fun _ => ()) id {} queue
    (reply.map fun _ => handle, rest)
  executeBatch sql := answer (fun _ => ()) (flagAfter sql)
  execute _ := answer (·.count) id
  query _ := answer (·.rows) id
  inTransaction handle _ := handle.inTransaction
  close handle queue :=
    let (reply, _, rest) := answer (fun _ => ()) id handle queue
    (reply, rest)

end OpenSql.Scripted
