/-
# OpenSql.Text.Upper — the full upper-case form of a text.

Column names of a row are found by their upper-case forms, so `strasse` and `straße` are one name.
The mapping is character by character and does not look at the neighbours or at a language.
-/
import OpenSql.Text.UpperTable

namespace OpenSql.Text

/-- The run that the character number falls into. -/
def UpperRun.holds (r : UpperRun) (n : Nat) : Bool :=
  r.first ≤ n && n ≤ r.last && (n - r.first) % r.step == 0

/-- The full upper-case form of one character. -/
def upperChar (c : Char) : List Char :=
  if c.toNat < 0x80 then [c.toUpper]
  else match upperExpansions.find? (·.1 == c.toNat) with
    | some (_, form) => form.map Char.ofNat
    | none => match upperRuns.find? (·.holds c.toNat) with
      | some r => [Char.ofNat (c.toNat + r.offset).toNat]
      | none => [c]

/-- The full upper-case form of a text. -/
def upper (s : String) : String := String.ofList (s.toList.flatMap upperChar)

end OpenSql.Text
