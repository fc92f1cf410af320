/-
# OpenSql.Options — what the operations of a session are given.

Values, assignments and predicates are SQL text that the caller has formatted.
-/

namespace OpenSql

/-- A SELECT clause of the dialect, and the key columns that it may order by. -/
structure SelectOptions where
  select : String
  primaryKey : Option (List String) := none
deriving DecidableEq

/-- A row to insert. -/
structure InsertOptions where
  table : String
  columns : List String
  values : List String
deriving DecidableEq

/-- Assignments for the rows of a predicate. -/
structure UpdateOptions where
  table : String
  assignments : List String
  predicate : String
deriving DecidableEq

/-- The rows of a predicate that are to go. -/
structure DeleteOptions where
  table : String
  predicate : String
deriving DecidableEq

/-- SQL text to run as it is: one script, or several one after another. -/
inductive Script where
  | single (sql : String)
  | batch (scripts : List String)
deriving DecidableEq

/-- The scripts in their order. -/
def Script.toList : Script → List String
  | single sql => [sql]
  | batch scripts => scripts

end OpenSql
