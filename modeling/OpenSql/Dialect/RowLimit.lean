/-
# OpenSql.Dialect.RowLimit — the row limit of a SELECT clause.

The dialect writes `UP TO n ROWS` in the middle of a clause where SQL has `LIMIT n` at its end.  The
first limit of the text is taken out and its number set behind the rest of its line.
-/
import OpenSql.Text.Ascii

namespace OpenSql.Dialect

open Text (dropWord?)

/-- What stands before the number of a row limit. -/
def limitHead : List Char := [' ', 'u', 'p', ' ', 't', 'o', ' ']

/-- What stands behind the number of a row limit. -/
def limitTail : List Char := [' ', 'r', 'o', 'w', 's']

/-- What SQL writes before the number. -/
def limitWord : List Char := [' ', 'L', 'I', 'M', 'I', 'T', ' ']

/-- Reads a row limit at the front of the text: its digits, and what follows it. -/
def rowLimit? (s : List Char) : Option (List Char × List Char) :=
  match dropWord? limitHead s with
  | none => none
  | some afterHead =>
    let digits := afterHead.takeWhile Char.isDigit
    if digits.isEmpty then none
    else (dropWord? limitTail (afterHead.dropWhile Char.isDigit)).map (digits, ·)

/-- Moves the first row limit behind the rest of its line. -/
def hoistRowLimit : List Char → List Char
  | [] => []
  | c :: s =>
    match rowLimit? (c :: s) with
    | some (digits, rest) =>
      rest.takeWhile (· != '\n') ++ limitWord ++ digits ++ rest.dropWhile (· != '\n')
    | none => c :: hoistRowLimit s

/-- A row limit stands somewhere in the text. -/
def HasRowLimit (s : List Char) : Prop :=
  ∃ before after, s = before ++ after ∧ (rowLimit? after).isSome

end OpenSql.Dialect
