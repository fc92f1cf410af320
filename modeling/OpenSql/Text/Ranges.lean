/-
# OpenSql.Text.Ranges — sets of code points given by the places where membership changes.

A property of the character standard is a list of ascending bounds: membership starts at the first,
ends before the second, starts again at the third, and so on.
-/

namespace OpenSql.Text

/-- Whether the number lies in one of the half-open intervals between a bound at an even place and
the bound after it.  A last lone bound opens an interval without end. -/
def inRanges : List Nat → Nat → Bool
  | lo :: hi :: rest, n => if n < lo then false else if n < hi then true else inRanges rest n
  | [lo], n => lo ≤ n
  | [], _ => false

end OpenSql.Text
