/-
# OpenSql.Engine.Keyword — the words of the language.

A word is a keyword whatever the case of its letters.  Some keywords can stand where a name is
expected, provided that the keyword itself cannot stand there; the others are reserved.
-/
import OpenSql.Text.Ascii

namespace OpenSql.Engine

/-- Keywords that are never names. -/
def reservedWords : List String :=
  ["ADD", "ALL", "ALTER", "AND", "AS", "AUTOINCREMENT", "BETWEEN", "CASE", "CHECK", "COLLATE",
   "COMMIT", "CONSTRAINT", "CREATE", "DEFAULT", "DEFERRABLE", "DELETE", "DISTINCT", "DROP", "ELSE",
   "ESCAPE", "EXCEPT", "EXISTS", "FOREIGN", "FROM", "GROUP", "HAVING", "IN", "INDEX", "INSERT",
   "INTERSECT", "INTO", "IS", "ISNULL", "JOIN", "LIMIT", "NOT", "NOTHING", "NOTNULL", "NULL", "ON",
   "OR", "ORDER", "PRIMARY", "REFERENCES", "RETURNING", "SELECT", "SET", "TABLE", "THEN", "TO",
   "TRANSACTION", "UNION", "UNIQUE", "UPDATE", "USING", "VALUES", "WHEN", "WHERE"]

/-- Keywords of joins, which can be names but no aliases. -/
def joinWords : List String :=
  ["CROSS", "FULL", "INNER", "LEFT", "NATURAL", "OUTER", "RIGHT"]

/-- The word in the spelling of keywords. -/
def keywordSpelling (word : List Char) : String := String.ofList (word.map Char.toUpper)

end OpenSql.Engine
