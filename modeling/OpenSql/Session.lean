/-
# OpenSql.Session — a logical database session.

A session owns at most one handle.  Queries and mutations are put into SQL, traced when the
configuration asks for it, and run; queries give rows or raise a condition, mutations give an outcome
and never fail on a connected session.

The text of a query or a mutation is traced before the session looks at its connection, so the trace
holds one entry for every such operation.
-/
import OpenSql.Cursor
import OpenSql.Dialect.Mutation
import OpenSql.Dialect.Select
import OpenSql.Options
import OpenSql.Outcome
import OpenSql.Transactions

namespace OpenSql

/-- A session. -/
structure Session (H : Type) where
  config : SessionConfig
  /-- Turns the faults of queries into conditions. -/
  mapper : Option ConditionMapper := none
  handle : Option H := none
  transactions : Transactions := {}

namespace Session

/-- The session holds a handle. -/
def isConnected (s : Session H) : Bool := s.handle.isSome

/-- The name of the database system, once connected. -/
def dbsys? (b : Backend H W) (s : Session H) : Option String := s.handle.map fun _ => b.name

/-- The error raised for the fault of a query. -/
def raise (s : Session H) (fault : Fault) : DbError :=
  match s.mapper with
  | some mapper => .condition (mapper fault)
  | none => .backend fault

end Session

/-- A session in the world of its backend, with the events so far. -/
structure Machine (H W : Type) where
  session : Session H
  world : W
  events : List Event := []

/-- An operation of a session. -/
abbrev SessionM (H W : Type) := ExceptT Stop (StateM (Machine H W))

namespace Session

/-- Reports something that happened. -/
def emit (event : Event) : SessionM H W Unit :=
  modify fun m => { m with events := m.events ++ [event] }

/-- Reports a notice. -/
def note (notice : Notice) : SessionM H W Unit := emit (.notice notice)

/-- Writes to the SQL trace, if it is on. -/
def trace (entry : Trace) : SessionM H W Unit := do
  if (← get).session.config.trace then emit (.trace entry)

/-- Runs an operation on a handle with the session's bookkeeping.  The bookkeeping, the world and the
events are kept however the operation ends; what becomes of the handle is for `keep` to say. -/
def onHandle (handle : H) (keep : H → Option H) (operation : LineM H W α) : SessionM H W α :=
  fun m =>
    let (result, line) := operation ⟨m.session.transactions, handle, m.world, m.events⟩
    (result,
      { session :=
          { m.session with handle := keep line.handle, transactions := line.transactions }
        world := line.world
        events := line.events })

/-- Runs an operation on the session's handle. -/
def connected (operation : LineM H W α) : SessionM H W α := do
  let s := (← get).session
  match s.handle with
  | some handle => onHandle handle some operation
  | none => throw (.error (.notConnected s.config.context))

/-- Takes the handle away and closes it, after rolling an open transaction back.  Both steps are made
whatever the first one answers; the fault of the first is the one returned. -/
def disconnect (b : Backend H W) : SessionM H W Unit := do
  let s := (← get).session
  match s.handle with
  | none => return ()
  | some handle =>
    let (rolledBack, closed) ← onHandle handle (fun _ => none) do
      let rolledBack ← tryCatch (do Line.rollback b; return none) fun
        | .error e => return some e
        | .crash => throw .crash
      Line.reset
      return (rolledBack, ← Line.close b)
    note (.disconnected s.config.context)
    match rolledBack, closed with
    | some error, _ => throw (.error error)
    | none, .error fault => throw (.error (.backend fault))
    | none, .ok () => return ()

/-- Disconnects and only reports what goes wrong. -/
def release (b : Backend H W) : SessionM H W Unit := do
  let context := (← get).session.config.context
  tryCatch (disconnect b) fun
    | .error e => note (.releaseFailed context e)
    | .crash => throw .crash

/-- Opens a handle, in place of the one the session holds. -/
def connect (b : Backend H W) : SessionM H W Unit := do
  let config := (← get).session.config
  if (← get).session.isConnected then
    note (.replacingConnection config.context)
    release b
  emit (.call (.openHandle config.database))
  let m ← get
  let (reply, world) := b.openHandle config m.world
  set { m with world }
  match reply with
  | .failed fault => throw (.error (.backend fault))
  | .crashed => throw .crash
  | .done handle =>
    for notice in b.openNotices config do
      note notice
    note (.connected config.context b.name)
    modify fun m =>
      { m with session := { m.session with handle := some handle, transactions := .idle } }

/-- Runs one script as it is; the empty text is passed over. -/
def executeOne (b : Backend H W) (sql : String) : SessionM H W Unit := do
  if sql.isEmpty then return ()
  connected do
    Line.note (.executing sql)
    Line.ask (.executeBatch sql) (b.executeBatch sql)
    Line.record b

/-- Runs scripts in their order, up to the first that fails. -/
def executeAll (b : Backend H W) : List String → SessionM H W Unit
  | [] => return ()
  | sql :: rest => do
    executeOne b sql
    executeAll b rest

/-- Runs a script, or a batch of them. -/
def execute (b : Backend H W) : Script → SessionM H W Unit
  | .single sql => executeOne b sql
  | .batch scripts => executeAll b scripts

/-- Runs a SELECT of the dialect and gives every row. -/
def select (b : Backend H W) (options : SelectOptions) : SessionM H W (List Row) := do
  let sql := Dialect.selectSql options.select options.primaryKey
  trace (.statement sql)
  match ← connected (Line.attempt (.query sql) (b.query sql)) with
  | .ok rows => return rows
  | .error fault => throw (.error ((← get).session.raise fault))

/-- Runs a SELECT of the dialect and opens a cursor over its rows. -/
def openCursor (b : Backend H W) (options : SelectOptions) : SessionM H W Cursor := do
  let rows ← select b options
  note (.cursorOpened rows.length)
  return .ofRows rows

/-- Inserts a row.  Any fault gives the outcome "not found" and is only traced. -/
def insert (b : Backend H W) (options : InsertOptions) : SessionM H W Outcome := do
  let sql := Dialect.insertSql options.table options.columns options.values
  trace (.statement sql)
  let result ← connected (Line.attempt (.executeBatch sql) (b.executeBatch sql))
  let outcome ← match result with
    | .ok () => pure (Outcome.ok 1)
    | .error fault => do
      trace (.insertFailed fault)
      pure .notFound
  connected (Line.record b)
  return outcome

/-- Runs a mutation and folds its result into an outcome. -/
def mutate (b : Backend H W) (sql : String) : SessionM H W Outcome := do
  trace (.statement sql)
  connected do
    let outcome ← match ← Line.attempt (.execute sql) (b.execute sql) with
      | .ok count => pure (Outcome.ofCount count)
      | .error fault => do
        Line.note (.mutationFailed fault)
        pure .notFound
    Line.record b
    return outcome

/-- Updates the rows of a predicate. -/
def update (b : Backend H W) (options : UpdateOptions) : SessionM H W Outcome :=
  mutate b (Dialect.updateSql options.table options.assignments options.predicate)

/-- Deletes the rows of a predicate. -/
def delete (b : Backend H W) (options : DeleteOptions) : SessionM H W Outcome :=
  mutate b (Dialect.deleteSql options.table options.predicate)

/-- Opens a transaction. -/
def begin (b : Backend H W) : SessionM H W Unit := connected (Line.begin b)

/-- Commits the open transaction. -/
def commit (b : Backend H W) : SessionM H W Unit := connected (Line.commit b)

/-- Rolls the open transaction back. -/
def rollback (b : Backend H W) : SessionM H W Unit := connected (Line.rollback b)

end Session

end OpenSql
