/-
# OpenSql.Event — what a session does beside returning results.

Three streams run through one list, in the order in which things happen: the calls made to the
backend, the trace of SQL texts, and notices about the life of the session.  The trace is written
only when the configuration asks for it; calls and notices are always there.
-/
import OpenSql.Error

namespace OpenSql

/-- A call to a backend. -/
inductive Call where
  | openHandle (database : String)
  | begin
  | commit
  | rollback
  | executeBatch (sql : String)
  | execute (sql : String)
  | query (sql : String)
  | close
deriving DecidableEq

/-- The weight of a report. -/
inductive Level where
  | debug
  | info
  | warn
deriving DecidableEq

/-- The name of a level. -/
def Level.name : Level → String
  | debug => "DEBUG"
  | info => "INFO"
  | warn => "WARN"

/-- A detail of a report. -/
inductive Detail where
  | text (s : String)
  | count (n : Nat)
deriving DecidableEq

/-- A message with its weight and details. -/
structure Report where
  level : Level
  message : String
  details : List (String × Detail)
deriving DecidableEq

/-- An entry of the SQL trace. -/
inductive Trace where
  /-- The final text of a query or a mutation, before it goes to the backend. -/
  | statement (sql : String)
  /-- An insertion that the backend refused. -/
  | insertFailed (fault : Fault)
deriving DecidableEq

/-- The report of a trace entry; the message of a statement is its text. -/
def Trace.report : Trace → Report
  | statement sql => ⟨.info, sql, []⟩
  | insertFailed fault =>
    ⟨.warn, "INSERT failed", [("error", .text fault.message), ("kind", .text fault.kind.name)]⟩

/-- A notice about the life of a session. -/
inductive Notice where
  | replacingConnection (context : String)
  | connected (context dbsys : String)
  | disconnected (context : String)
  | releaseFailed (context : String) (error : DbError)
  | executing (sql : String)
  | cursorOpened (rows : Nat)
  | mutationFailed (fault : Fault)
  | beginIgnored
  | started
  | committed (statements : Nat)
  | rolledBack (statements : Nat)
  | workerFailed (error : DbError)
  | databaseOpened (database : String)
deriving DecidableEq

/-- The report of a notice. -/
def Notice.report : Notice → Report
  | replacingConnection context =>
    ⟨.debug, "Replacing existing connection", [("context", .text context)]⟩
  | connected context dbsys =>
    ⟨.info, "Database connected", [("context", .text context), ("dbsys", .text dbsys)]⟩
  | disconnected context => ⟨.info, "Database disconnected", [("context", .text context)]⟩
  | releaseFailed context error =>
    ⟨.warn, "Error while releasing connection",
      [("context", .text context), ("error", .text error.message)]⟩
  | executing sql => ⟨.debug, "EXECUTE", [("sql", .text sql)]⟩
  | cursorOpened rows => ⟨.debug, "Cursor opened", [("rows", .count rows)]⟩
  | mutationFailed fault => ⟨.debug, "Mutation failed", [("error", .text fault.message)]⟩
  | beginIgnored => ⟨.debug, "BEGIN ignored, transaction already active", []⟩
  | started => ⟨.debug, "Transaction started", []⟩
  | committed statements =>
    ⟨.debug, "Transaction committed", [("statements", .count statements)]⟩
  | rolledBack statements =>
    ⟨.debug, "Transaction rolled back", [("statements", .count statements)]⟩
  | workerFailed error => ⟨.debug, "Session worker failed", [("error", .text error.message)]⟩
  | databaseOpened database =>
    ⟨.debug, "Opened SQLite backend", [("database", .text database)]⟩

/-- One thing that happened. -/
inductive Event where
  | call (call : Call)
  | trace (entry : Trace)
  | notice (notice : Notice)
deriving DecidableEq

namespace Event

/-- The backend calls among the events. -/
def calls (events : List Event) : List Call :=
  events.filterMap fun | call c => some c | _ => none

/-- The trace among the events. -/
def traces (events : List Event) : List Trace :=
  events.filterMap fun | trace t => some t | _ => none

/-- The notices among the events. -/
def notices (events : List Event) : List Notice :=
  events.filterMap fun | notice n => some n | _ => none

end Event

end OpenSql
