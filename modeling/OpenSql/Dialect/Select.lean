/-
# OpenSql.Dialect.Select — a SELECT clause of the dialect as SQL.

The clause is changed as text, in four steps: the row limit, the ordering by primary key, the sort
directions, and the component selector `~`.  No step knows about string literals.
-/
import OpenSql.Dialect.RowLimit
import OpenSql.Dialect.KeyOrder
import OpenSql.Dialect.SortDirection

namespace OpenSql.Dialect

/-- Writes the component selector as a point. -/
def qualify (s : List Char) : List Char := s.map fun c => if c = '~' then '.' else c

/-- The SQL of a SELECT clause, for the given key columns. -/
def selectChars (keys : List (List Char)) (s : List Char) : List Char :=
  qualify (shortenDirections (expandKeyOrder keys (hoistRowLimit s)))

/-- The SQL of a SELECT clause.  A statement without key columns and one with an empty list of them
are the same. -/
def selectSql (select : String) (primaryKey : Option (List String)) : String :=
  String.ofList (selectChars ((primaryKey.getD []).map String.toList) select.toList)

end OpenSql.Dialect
