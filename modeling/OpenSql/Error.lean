/-
# OpenSql.Error — what the operations of a session can fail with.

Mutations report faults as outcomes and never fail with them.  What remains are operations without a
connection, faults of scripts and transactions, conditions raised by queries, and closed cursors.
-/
import OpenSql.Condition
import OpenSql.Config.Basic

namespace OpenSql

/-- The failure of an operation. -/
inductive DbError where
  /-- The session holds no connection. -/
  | notConnected (context : String)
  | backend (fault : Fault)
  | condition (condition : Condition)
  | cursorClosed
  | config (error : ConfigError)
  /-- The worker that ran the operation did not come back. -/
  | worker
deriving DecidableEq

namespace DbError

/-- The words of an error; a worker's failure has none of its own. -/
def message : DbError → String
  | notConnected context => "no open database connection for context '" ++ context ++ "'"
  | backend fault => fault.message
  | condition c => c.text
  | cursorClosed => "cursor is closed"
  | config error => error.message
  | worker => "database worker failed"

/-- The diagnostic code of an error. -/
def code : DbError → String
  | notConnected _ => "osql::not_connected"
  | backend _ => "osql::backend"
  | condition _ => "osql::condition"
  | cursorClosed => "osql::cursor_closed"
  | config _ => "osql::config"
  | worker => "osql::worker"

/-- Advice that goes with an error. -/
def help? : DbError → Option String
  | notConnected _ => some "call connect() before issuing statements"
  | _ => none

end DbError

end OpenSql
