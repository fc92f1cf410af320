/-
# OpenSql.Environment — the variables that a program is started with.

A variable holds bytes.  One whose bytes are not a text counts as unset.
-/
import OpenSql.Text.Utf8

namespace OpenSql

/-- Variables with their bytes. -/
structure Environment where
  entries : List (String × List UInt8) := []

/-- The text of a variable, if it is set to one. -/
def Environment.get? (env : Environment) (name : String) : Option String :=
  (env.entries.find? (·.1 == name)).bind fun v => Text.decodeUtf8? v.2

end OpenSql
