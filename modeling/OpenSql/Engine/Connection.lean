/-
# OpenSql.Engine.Connection — statements on one connection to a database.

Outside a transaction every statement is one of its own: it takes the locks that it needs, publishes
what it changed and gives the locks back.  Inside a transaction the changes are kept apart in a working
copy and the locks stay, until the transaction is committed or rolled back.  A commit that finds other
readers is refused and may be tried again.

A connection remembers the tables as it saw them last.  While it cannot read the file, it looks up
names in what it remembers.
-/
import OpenSql.Engine.Disk
import OpenSql.Engine.Plan
import OpenSql.Engine.StatementReader

namespace OpenSql.Engine

/-- A connection to a database. -/
structure Connection where
  id : Nat
  /-- The file of the database; none for a database of the connection's own. -/
  file : Option (List String)
  mayWrite : Bool := true
  /-- The database of the connection's own. -/
  own : Database := {}
  inTransaction : Bool := false
  /-- The database as the transaction has changed it. -/
  working : Option Database := none
  /-- The transaction has written something. -/
  dirty : Bool := false
  /-- The number of rows that the last change was asked to change. -/
  changes : Nat := 0
  /-- The tables as they were seen last. -/
  remembered : Option Database := none

/-- What a statement returns. -/
structure Returned where
  names : List String := []
  rows : List (List Cell) := []

/-- How a step on a connection ends. -/
structure Ended (α : Type) where
  result : Except EngineFailure α
  connection : Connection
  disk : Disk

/-- The failure of a write to a database that is open for reading only. -/
def readOnlyFailure : EngineFailure := .running .readOnly "attempt to write a readonly database"

namespace Connection

/-! ## Views and locks -/

/-- The database that everybody sees. -/
def committed (c : Connection) (d : Disk) : Except EngineFailure Database :=
  match c.file with
  | none => .ok c.own
  | some file => d.database file

/-- The database that the connection sees. -/
def view (c : Connection) (d : Disk) : Except EngineFailure Database :=
  match c.working with
  | some db => .ok db
  | none => c.committed d

/-- The connection could read. -/
def canRead (c : Connection) (d : Disk) : Bool :=
  match c.file with
  | none => true
  | some file => d.admitsReader c.id file

/-- Takes the lock for reading. -/
def lockForReading (c : Connection) (d : Disk) : Except EngineFailure Disk := do
  let _ ← c.committed d
  match c.file with
  | none => return d
  | some file => d.lockShared c.id file

/-- Takes the lock for preparing a change. -/
def lockForWriting (c : Connection) (d : Disk) : Except EngineFailure Disk := do
  if !c.mayWrite then throw readOnlyFailure
  let _ ← c.committed d
  match c.file with
  | none => return d
  | some file => d.lockReserved c.id file

/-- Gives the locks back, unless a transaction keeps them. -/
def unlock (c : Connection) (d : Disk) : Disk :=
  if c.inTransaction then d else d.release c.id

/-- Writing the first change to an empty file is a change in itself. -/
def startsFile (c : Connection) (d : Disk) : Bool :=
  match c.file with
  | none => false
  | some file => d.isEmpty file

/-! ## Transactions -/

/-- The connection without a transaction. -/
def reset (c : Connection) : Connection :=
  { c with inTransaction := false, working := none, dirty := false }

/-- Forgets what the transaction has changed. -/
def abandon (c : Connection) (d : Disk) : Connection × Disk := (c.reset, d.release c.id)

/-- The working copy leaves more orphans than there were before. -/
def leavesOrphans (c : Connection) (d : Disk) : Bool :=
  match c.working, c.committed d with
  | some after, .ok before => before.orphans true < after.orphans true
  | _, _ => false

/-- Publishes the working copy; the flag says whether that was possible. -/
def publish (c : Connection) (d : Disk) : Bool × Connection × Disk :=
  match c.working, c.file with
  | none, none => (true, c.reset, d)
  | some db, none => (true, { c.reset with own := db }, d)
  | working, some file =>
    if !c.dirty then (true, c.reset, d.release c.id)
    else match d.lockExclusive c.id file with
      | (false, d) => (false, c, d)
      | (true, d) =>
        let d := match working with
          | some db => d.write file db
          | none => if d.isEmpty file then d.write file {} else d
        (true, c.reset, d.release c.id)

/-- Ends the transaction and keeps its changes. -/
def commit (c : Connection) (d : Disk) : Ended Unit :=
  if !c.inTransaction then
    ⟨.error (generalFailure "cannot commit - no transaction is active"), c, d⟩
  else if c.leavesOrphans d then ⟨.error orphanFailure, c, d⟩
  else match c.publish d with
    | (true, c, d) => ⟨.ok (), c, d⟩
    | (false, c, d) => ⟨.error busyFailure, c, d⟩

/-- Ends the transaction and forgets its changes. -/
def rollback (c : Connection) (d : Disk) : Ended Unit :=
  if c.inTransaction then
    let (c, d) := c.abandon d
    ⟨.ok (), c, d⟩
  else ⟨.error (generalFailure "cannot rollback - no transaction is active"), c, d⟩

/-- The locks that the start of a transaction takes. -/
def lockForMode (c : Connection) (mode : TransactionMode) (d : Disk) :
    Except EngineFailure (Connection × Disk) := do
  if mode = .deferred then return (c, d)
  if !c.mayWrite then return (c, ← c.lockForReading d)
  let d ← c.lockForWriting d
  let c := { c with dirty := c.dirty || c.startsFile d }
  match c.file with
  | some file =>
    if mode = .exclusive then
      let (isAlone, d) := d.lockExclusive c.id file
      if !isAlone then throw busyFailure
      return (c, d)
    return (c, d)
  | none => return (c, d)

/-- Starts a transaction. -/
def begin (mode : TransactionMode) (c : Connection) (d : Disk) : Ended Unit :=
  match c.lockForMode mode d with
  | .error failure => ⟨.error failure, c, d⟩
  | .ok (locked, d) =>
    if c.inTransaction then
      ⟨.error (generalFailure "cannot start a transaction within a transaction"), locked, d⟩
    else ⟨.ok (), { locked with inTransaction := true }, d⟩

/-! ## Statements on tables -/

/-- Looks up the names of a statement, in what the connection sees or else in what it remembers. -/
def prepare (make : Database → Except EngineFailure Plan) (c : Connection) (d : Disk) :
    Except EngineFailure Plan × Connection :=
  if c.canRead d then
    match c.view d with
    | .error failure => (.error failure, c)
    | .ok db => (make db, { c with remembered := some db })
  else match c.remembered with
    | none => (.error busyFailure, c)
    | some db => ((make db).bind fun _ => .error busyFailure, c)

/-- Keeps a changed database: in the working copy, or at once when no transaction is open. -/
def keep (after : Database) (wrote : Bool) (c : Connection) (d : Disk) : Ended Unit :=
  let c := { c with working := some after, dirty := c.dirty || wrote || c.startsFile d }
  if c.inTransaction then ⟨.ok (), c, d⟩
  else if c.leavesOrphans d then
    let (c, d) := c.abandon d
    ⟨.error orphanFailure, c, d⟩
  else match c.publish d with
    | (true, c, d) => ⟨.ok (), c, d⟩
    | (false, c, d) =>
      let (c, d) := c.abandon d
      ⟨.error busyFailure, c, d⟩

/-- Keeps what came of a change of rows. -/
def keepChanged (changed : Changed) (c : Connection) (d : Disk) : Ended Unit :=
  match changed.stop with
  | none =>
    let ended := c.keep changed.db changed.wrote d
    match ended.result with
    | .ok _ => { ended with connection := { ended.connection with changes := changed.count } }
    | .error _ => ended
  | some (.fail, failure) =>
    let ended := c.keep changed.db changed.wrote d
    match ended.result with
    | .ok _ => { ended with
        result := .error failure, connection := { ended.connection with changes := changed.count } }
    | .error _ => ended
  | some (.rollback, failure) =>
    let (c, d) := c.abandon d
    ⟨.error failure, c, d⟩
  | some (_, failure) =>
    let c := { c with dirty := c.inTransaction && (c.dirty || changed.wrote) }
    ⟨.error failure, c, c.unlock d⟩

/-- The change of rows that a plan makes. -/
def changeOf? (db : Database) : Plan → Option (Except EngineFailure Changed)
  | .insert i => some (i.run db)
  | .update u => some (.ok (u.run db))
  | .delete deletion => some (.ok (deletion.run db))
  | _ => none

/-- The database that a change of tables leads to. -/
def redefinition (db : Database) : Plan → Except EngineFailure Database
  | .define after => .ok after
  | .dropTable t => db.dropTable t
  | _ => .ok db

/-- Runs a plan that writes. -/
def write (plan : Plan) (c : Connection) (d : Disk) : Ended Unit :=
  let isChange := (changeOf? {} plan).isSome
  let c := if isChange then { c with changes := 0 } else c
  match c.lockForWriting d with
  | .error failure => ⟨.error failure, c, d⟩
  | .ok d =>
    match c.view d with
    | .error failure => ⟨.error failure, c, c.unlock d⟩
    | .ok db =>
      match changeOf? db plan with
      | some (.ok changed) => c.keepChanged changed d
      | some (.error failure) => ⟨.error failure, c, c.unlock d⟩
      | none => match redefinition db plan with
        | .ok after => c.keep after true d
        | .error failure => ⟨.error failure, c, c.unlock d⟩

/-- Runs a plan that reads. -/
def read (plan : Plan) (c : Connection) (d : Disk) : Ended Returned :=
  match c.lockForReading d with
  | .error failure => ⟨.error failure, c, d⟩
  | .ok d =>
    let result := match plan with
      | .query q => q.run.map fun rows => ⟨q.names, rows⟩
      | _ => .ok {}
    ⟨result, c, c.unlock d⟩

/-- Runs a plan. -/
def runPlan (plan : Plan) (c : Connection) (d : Disk) : Ended Returned :=
  match plan.need with
  | .nothing =>
    let result := match plan with
      | .query q => q.run.map fun rows => ⟨q.names, rows⟩
      | _ => .ok {}
    ⟨result, c, d⟩
  | .reading => c.read plan d
  | .writing =>
    let ended := c.write plan d
    ⟨ended.result.map fun _ => {}, ended.connection, ended.disk⟩

/-- Looks up the names of a statement and runs it. -/
def runMade (make : Database → Except EngineFailure Plan) (c : Connection) (d : Disk) :
    Ended Returned :=
  match c.prepare make d with
  | (.error failure, c) => ⟨.error failure, c, d⟩
  | (.ok plan, c) => c.runPlan plan d

/-- A step that returns nothing. -/
def silent (ended : Ended Unit) : Ended Returned :=
  ⟨ended.result.map fun _ => {}, ended.connection, ended.disk⟩

/-- Runs a statement. -/
def run (s : Statement) (c : Connection) (d : Disk) : Ended Returned :=
  match s with
  | .begin mode => silent (c.begin mode d)
  | .commit => silent (c.commit d)
  | .rollback => silent (c.rollback d)
  | .select query =>
    let make (db : Database) : Except EngineFailure Plan :=
      (Query.ofStatement db query).map .query
    match query.source with
    | some _ => c.runMade make d
    | none => match make {} with
      | .ok plan => c.runPlan plan d
      | .error failure => ⟨.error failure, c, d⟩
  | .createTable spec => c.runMade (Plan.ofCreateTable · spec) d
  | .dropTable name onlyIfThere => c.runMade (Plan.ofDropTable · name onlyIfThere) d
  | .dropView name onlyIfThere => c.runMade (Plan.ofDropView · name onlyIfThere) d
  | .insert resolution target columns source =>
    c.runMade (Plan.ofInsert · resolution target columns source) d
  | .update resolution target assignments condition =>
    c.runMade (Plan.ofUpdate · resolution target assignments condition) d
  | .delete target condition => c.runMade (Plan.ofDelete · target condition) d

/-! ## Texts -/

/-- Runs the first statement of a text; `none` when there is no statement in it. -/
def runFirst (text : String) (c : Connection) (d : Disk) : Ended (Option Returned) :=
  match nextStatement? (Tokens.ofText text) with
  | .error unexpected => ⟨.error unexpected.failure, c, d⟩
  | .ok none => ⟨.ok none, c, d⟩
  | .ok (some (s, _)) =>
    let ended := c.run s d
    ⟨ended.result.map some, ended.connection, ended.disk⟩

/-- Runs the statements of a text that are left, up to the first failure. -/
def runRest (fuel : Nat) (t : Tokens) (c : Connection) (d : Disk) : Ended Unit :=
  match fuel with
  | 0 => ⟨.ok (), c, d⟩
  | fuel + 1 =>
    match nextStatement? t with
    | .error unexpected => ⟨.error unexpected.failure, c, d⟩
    | .ok none => ⟨.ok (), c, d⟩
    | .ok (some (s, t)) =>
      let ended := c.run s d
      match ended.result with
      | .error failure => ⟨.error failure, ended.connection, ended.disk⟩
      | .ok _ => runRest fuel t ended.connection ended.disk

/-- Runs the statements of a text, up to the first failure. -/
def runAll (text : String) (c : Connection) (d : Disk) : Ended Unit :=
  let t := Tokens.ofText text
  runRest (t.rest.length + 1) t c d

end Connection

end OpenSql.Engine
