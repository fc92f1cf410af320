/-
# OpenSql.Text.Quoted — a text between quotes, as a diagnostic shows it.

Quotes, backslashes and the common control characters are written with a backslash.  A character
that has no printed form, or that would attach itself to the one before, is written as its number;
all other characters stand for themselves.
-/
import OpenSql.Text.Ranges
import OpenSql.Text.PrintableTable
import OpenSql.Text.Hex

namespace OpenSql.Text

/-- One character of a quoted text. -/
def quotedChar (c : Char) : List Char :=
  if c = '\"' then ['\\', '\"']
  else if c = '\\' then ['\\', '\\']
  else if c = '\n' then ['\\', 'n']
  else if c = '\r' then ['\\', 'r']
  else if c = '\t' then ['\\', 't']
  else if c = '\x00' then ['\\', '0']
  else if inRanges extenderBounds c.toNat || inRanges unprintableBounds c.toNat then
    ['\\', 'u', '\x7b'] ++ hexNumber c.toNat ++ ['\x7d']
  else [c]

/-- The text between double quotes. -/
def quoted (s : String) : String :=
  String.ofList ('\"' :: s.toList.flatMap quotedChar ++ ['\"'])

end OpenSql.Text
