/-
# OpenSql.Dialect.KeyOrder — ordering by the primary key.

The dialect's `ORDER BY PRIMARY KEY` names no columns.  The first such clause is replaced by one that
names the key columns given with the statement, or taken out when there are none.
-/
import OpenSql.Text.Ascii

namespace OpenSql.Dialect

open Text (dropWord?)

/-- The clause without columns. -/
def keyOrderClause : List Char :=
  [' ', 'o', 'r', 'd', 'e', 'r', ' ', 'b', 'y', ' ',
   'p', 'r', 'i', 'm', 'a', 'r', 'y', ' ', 'k', 'e', 'y']

/-- What stands before the columns of an ordering. -/
def orderWord : List Char := [' ', 'O', 'R', 'D', 'E', 'R', ' ', 'B', 'Y', ' ']

/-- Puts a text in the place of the first clause. -/
def replaceKeyOrder (replacement : List Char) : List Char → List Char
  | [] => []
  | c :: s =>
    match dropWord? keyOrderClause (c :: s) with
    | some rest => replacement ++ rest
    | none => c :: replaceKeyOrder replacement s

/-- The ordering by the given columns; no text when there are none. -/
def keyOrdering : List (List Char) → List Char
  | [] => []
  | keys => orderWord ++ Text.joined [',', ' '] keys

/-- Names the key columns where the text orders by the primary key. -/
def expandKeyOrder (keys : List (List Char)) (s : List Char) : List Char :=
  replaceKeyOrder (keyOrdering keys) s

/-- The clause stands somewhere in the text. -/
def HasKeyOrder (s : List Char) : Prop :=
  ∃ before after, s = before ++ after ∧ (dropWord? keyOrderClause after).isSome

end OpenSql.Dialect
