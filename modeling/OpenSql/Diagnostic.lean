/-
# OpenSql.Diagnostic — a session in one line.

The line names every part of the session that can be shown; of the mapper only its presence.
-/
import OpenSql.Shared
import OpenSql.Text.Quoted

namespace OpenSql

/-- The word for a truth value. -/
def truthWord (b : Bool) : String := if b then "true" else "false"

/-- The fields of a record between braces. -/
def describeRecord (name : String) (fields : List (String × String)) : String :=
  name ++ " \x7b " ++ String.intercalate ", " (fields.map fun (field, value) =>
    field ++ ": " ++ value) ++ " \x7d"

/-- The configuration in one line. -/
def SessionConfig.describe (c : SessionConfig) : String :=
  describeRecord "SessionConfig"
    [("context", Text.quoted c.context), ("database", Text.quoted c.database),
      ("trace", truthWord c.trace), ("busy_timeout_ms", Decimal.text c.busyTimeout.toNat)]

/-- The bookkeeping in one line. -/
def Transactions.describe (t : Transactions) : String :=
  describeRecord "TransactionManager"
    [("state", t.stateName), ("statement_count", Decimal.text t.statements)]

/-- The session in one line. -/
def Session.describe (s : Session H) : String :=
  describeRecord "Session"
    [("config", s.config.describe), ("connected", truthWord s.isConnected),
      ("transactions", s.transactions.describe),
      ("condition_mapper", truthWord s.mapper.isSome)]

/-- A shared session in one line, which shows nothing of what is behind the lock. -/
def Shared.describe (_ : Shared H W) : String := "AsyncSession \x7b .. \x7d"

end OpenSql
