/-
# OpenSql.Dialect.Mutation — the SQL of insertions, updates and deletions.

Mutations are put together from parts that the caller has formatted.  Only column names are quoted;
a quote inside a name is written twice.
-/
import OpenSql.Text.Ascii

namespace OpenSql.Dialect

/-- A column name between double quotes. -/
def quoteName (name : List Char) : List Char :=
  '\"' :: (name.flatMap fun c => if c = '\"' then ['\"', '\"'] else [c]) ++ ['\"']

/-- The quoted column names with commas between them. -/
def columnList (columns : List (List Char)) : List Char :=
  Text.joined [','] (columns.map quoteName)

/-- The SQL that inserts one row of formatted values. -/
def insertSql (table : String) (columns values : List String) : String :=
  "INSERT INTO " ++ table ++ " (" ++ String.ofList (columnList (columns.map String.toList)) ++
    ") VALUES (" ++ String.intercalate "," values ++ ")"

/-- The SQL that applies assignments to the rows of a predicate. -/
def updateSql (table : String) (assignments : List String) (predicate : String) : String :=
  "UPDATE " ++ table ++ " SET " ++ String.intercalate ", " assignments ++ " WHERE " ++ predicate

/-- The SQL that deletes the rows of a predicate. -/
def deleteSql (table predicate : String) : String :=
  "DELETE FROM " ++ table ++ " WHERE " ++ predicate

end OpenSql.Dialect
