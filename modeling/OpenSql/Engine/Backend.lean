/-
# OpenSql.Engine.Backend — the engine behind the seam.

A handle is a connection, and the world of all handles is the disk with its locks.  A timeout that the
engine cannot count in 31 bits brings the opening to a halt after the file was opened.
-/
import OpenSql.Backend
import OpenSql.Engine.Connection
import OpenSql.Engine.Location

namespace OpenSql.Engine

/-- The failure when a file cannot be opened. -/
def cannotOpen (name : String) : EngineFailure :=
  .running .special ("unable to open database file: " ++ name)

/-- The failure when a text holds no statement to run. -/
def noStatement : EngineFailure := .running .special "not an error"

/-- The longest timeout that the engine takes, in milliseconds. -/
def longestTimeout : UInt64 := 2147483647

/-- The reply of a step. -/
def Ended.reply {α β : Type} (ended : Ended α) (answer : α → Except EngineFailure β) :
    Reply β × Connection × Disk :=
  let reply := match ended.result.bind answer with
    | .ok b => .done b
    | .error failure => .failed failure.fault
  (reply, ended.connection, ended.disk)

namespace Connection

/-- A connection to a private database. -/
def privateTo (id : Nat) : Connection := { id, file := none }

/-- Connects to the database of a name. -/
def connect (name : String) (d : Disk) : Except EngineFailure (Connection × Disk) := do
  let location ← Location.ofName name
  let id := d.next
  let mayWrite := location.mode.mayWrite
  match location.path with
  | none => return ({ privateTo id with mayWrite }, { d with next := id + 1 })
  | some path =>
    match d.openFile path location.mode.mayCreate with
    | none => throw (cannotOpen name)
    | some (file, d) => return ({ id, file := some file, mayWrite }, { d with next := id + 1 })

/-- Opens the database of a configuration. -/
def openFor (config : SessionConfig) (d : Disk) : Reply Connection × Disk :=
  match connect config.database d with
  | .error failure => (.failed failure.fault, d)
  | .ok (c, d) =>
    if longestTimeout < config.busyTimeout then (.crashed, d) else (.done c, d)

/-- A row of a query. -/
def rowOf (names : List String) (cells : List Cell) : Row :=
  .ofColumns (names.zip (cells.map Cell.toValue))

end Connection

open Connection

/-- The engine. -/
def backend : Backend Connection Disk where
  name := "sqlite"
  openHandle := openFor
  openNotices := fun config => [.databaseOpened config.database]
  executeBatch := fun text c d => (c.runAll text d).reply .ok
  execute := fun text c d =>
    let ended := c.runFirst text d
    ended.reply fun returned =>
      match returned with
      | none => .error noStatement
      | some returned =>
        if returned.rows.isEmpty then .ok (UInt64.ofNat ended.connection.changes)
        else .error .returnedRows
  query := fun text c d =>
    (c.runFirst text d).reply fun returned =>
      match returned with
      | none => .error noStatement
      | some returned => .ok (returned.rows.map (rowOf returned.names))
  inTransaction := fun c _ => c.inTransaction
  close := fun c d => (.done (), d.release c.id)

end OpenSql.Engine
