/-
# OpenSql.Text.Blank — white space of the character standard, and texts trimmed of it.

A configured name is usable when something is left of it once the white space at both ends is cut
off.  The property is `White_Space`.
-/
import OpenSql.Text.Ranges

namespace OpenSql.Text

/-- Bounds of the characters with the property `White_Space`. -/
def blankBounds : List Nat :=
  [0x9, 0xE, 0x20, 0x21, 0x85, 0x86, 0xA0, 0xA1, 0x1680, 0x1681, 0x2000, 0x200B, 0x2028, 0x202A,
   0x202F, 0x2030, 0x205F, 0x2060, 0x3000, 0x3001]

/-- A white-space character. -/
def isBlank (c : Char) : Bool := inRanges blankBounds c.toNat

/-- The text without the white space at its ends. -/
def trim (s : List Char) : List Char :=
  ((s.dropWhile isBlank).reverse.dropWhile isBlank).reverse

/-- A text of white space only. -/
def AllBlank (s : List Char) : Prop := ∀ c ∈ s, isBlank c = true

instance (s : List Char) : Decidable (AllBlank s) :=
  decidable_of_decidable_of_iff (p := s.all isBlank = true) (by simp [AllBlank])

theorem dropWhile_eq_nil_of_forall {p : Char → Bool} {s : List Char} (h : ∀ c ∈ s, p c = true) :
    s.dropWhile p = [] := by
  induction s with
  | nil => rfl
  | cons c s ih => simp_all

theorem forall_of_dropWhile_eq_nil {p : Char → Bool} {s : List Char} (h : s.dropWhile p = []) :
    ∀ c ∈ s, p c = true := by
  induction s with
  | nil => simp
  | cons c s ih =>
    by_cases hc : p c = true
    · simp_all
    · simp [hc] at h

/-- Nothing is left of a text exactly when it is blank. -/
theorem trim_eq_nil_iff {s : List Char} : trim s = [] ↔ AllBlank s := by
  constructor
  · intro h
    have h' : (s.dropWhile isBlank).reverse.dropWhile isBlank = [] := by
      simpa [trim] using h
    have all := forall_of_dropWhile_eq_nil h'
    cases hd : s.dropWhile isBlank with
    | nil => exact forall_of_dropWhile_eq_nil hd
    | cons c t =>
      have hc : isBlank c = true := all c (by simp [hd])
      have : ¬ isBlank c = true := by
        have := List.head?_dropWhile_not isBlank s
        simp [hd] at this
        simpa using this
      exact absurd hc this
  · intro h
    simp [trim, dropWhile_eq_nil_of_forall h]

end OpenSql.Text
