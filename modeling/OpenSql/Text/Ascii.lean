/-
# OpenSql.Text.Ascii — letters compared without case, and words dropped from the front of a text.

Keywords of the dialect, truth words of the environment and class names of conditions are all
compared by ASCII letters only: `Char.toLower` moves `A` to `Z` and nothing else, so a Kelvin sign
is not a `k`.  A *pattern* is written in lower case; `dropWord?` cuts it off the front of a text
whatever the case of the letters there.
-/

namespace OpenSql.Text

/-- The text with `A` to `Z` in lower case. -/
def lower (s : List Char) : List Char := s.map Char.toLower

/-- Two texts that differ at most in the case of ASCII letters. -/
def sameLetters (a b : String) : Bool := lower a.toList == lower b.toList

/-- What follows the word at the front of the text, whatever the case of its letters; the word is
given in lower case. -/
def dropWord? : List Char → List Char → Option (List Char)
  | [], s => some s
  | _ :: _, [] => none
  | w :: ws, c :: s => if c.toLower = w then dropWord? ws s else none

/-- What follows the exact word at the front of the text. -/
def dropExact? : List Char → List Char → Option (List Char)
  | [], s => some s
  | _ :: _, [] => none
  | w :: ws, c :: s => if c = w then dropExact? ws s else none

/-- Whether the word occurs somewhere in the text. -/
def containsExact (word : List Char) : List Char → Bool
  | [] => word.isEmpty
  | c :: s => (dropExact? word (c :: s)).isSome || containsExact word s

/-- The texts with a separator between neighbours. -/
def joined (separator : List Char) : List (List Char) → List Char
  | [] => []
  | [s] => s
  | s :: t :: rest => s ++ separator ++ joined separator (t :: rest)

/-- The lines of `separator`-free pieces that the text consists of; never empty. -/
def pieces (separator : Char) : List Char → List (List Char)
  | [] => [[]]
  | c :: s =>
    if c = separator then [] :: pieces separator s
    else match pieces separator s with
      | [] => [[c]]
      | p :: ps => (c :: p) :: ps

@[simp]
theorem dropWord?_nil (s : List Char) : dropWord? [] s = some s := by
  simp [dropWord?]

theorem dropWord?_append {word s rest : List Char} (h : dropWord? word s = some rest) :
    ∃ head, s = head ++ rest ∧ lower head = word := by
  induction word generalizing s with
  | nil => exact ⟨[], by simpa [dropWord?] using h, rfl⟩
  | cons w ws ih =>
    cases s with
    | nil => simp [dropWord?] at h
    | cons c s =>
      by_cases hc : c.toLower = w
      · obtain ⟨head, hs, hl⟩ := ih (by simpa [dropWord?, hc] using h)
        exact ⟨c :: head, by simp [hs], by simp [lower, hc] at hl ⊢; exact hl⟩
      · simp [dropWord?, hc] at h

theorem length_lt_of_dropWord? {word s rest : List Char} (h : dropWord? word s = some rest)
    (nonempty : word ≠ []) : rest.length < s.length := by
  obtain ⟨head, hs, hw⟩ := dropWord?_append h
  have positive := List.length_pos_iff.2 nonempty
  have total := congrArg List.length hs
  simp [← hw, lower] at positive
  simp only [List.length_append] at total
  omega

theorem dropExact?_eq_some_iff {word s rest : List Char} :
    dropExact? word s = some rest ↔ s = word ++ rest := by
  induction word generalizing s with
  | nil => simp [dropExact?]
  | cons w ws ih =>
    cases s with
    | nil => simp [dropExact?]
    | cons c s => by_cases hc : c = w <;> simp [dropExact?, hc, ih]

end OpenSql.Text
