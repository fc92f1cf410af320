/-
# OpenSql.Dialect.SortDirection — the directions of an ordering.

The dialect spells sort directions out.  After a space `ASCENDING` becomes `ASC` and `DESCENDING`
becomes `DESC`, all the ascending ones first; what follows the word directly stays.
-/
import OpenSql.Text.Ascii

namespace OpenSql.Dialect

open Text (dropWord?)

/-- The long word for ascending order, after its space. -/
def ascendingWord : List Char := [' ', 'a', 's', 'c', 'e', 'n', 'd', 'i', 'n', 'g']

/-- The long word for descending order, after its space. -/
def descendingWord : List Char := [' ', 'd', 'e', 's', 'c', 'e', 'n', 'd', 'i', 'n', 'g']

/-- Puts a text in the place of every occurrence of a word, from the left. -/
def replaceEvery (word replacement : List Char) : List Char → List Char
  | [] => []
  | c :: s =>
    if nonempty : word = [] then c :: s
    else match found : dropWord? word (c :: s) with
      | some rest =>
        have : rest.length < (c :: s).length := Text.length_lt_of_dropWord? found nonempty
        replacement ++ replaceEvery word replacement rest
      | none => c :: replaceEvery word replacement s
termination_by s => s.length
decreasing_by
  · assumption
  · exact Nat.lt_succ_self _

/-- Writes the directions of an ordering in their short forms. -/
def shortenDirections (s : List Char) : List Char :=
  replaceEvery descendingWord [' ', 'D', 'E', 'S', 'C']
    (replaceEvery ascendingWord [' ', 'A', 'S', 'C'] s)

end OpenSql.Dialect
