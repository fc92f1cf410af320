/-
# OpenSql.Proofs.Dialect.SortDirection — sort directions, word by word.

Directions are looked for in the whole text, first the ascending ones and then the descending ones, and
what replaces one stands right before the text behind it.  None of this can be seen in the result: a
direction begins with a space and has no other, so each word between two spaces is changed on its own.
A word has at most one direction at its front, and the first word of a text has no space before it.
-/
import OpenSql.Proofs.Dialect.Steps

namespace OpenSql.Dialect

open Text (lower dropWord?)

variable {long short s t w : List Char}

/-! ## Texts that a space cuts off -/

/-- The text is empty or begins with a space. -/
def AtSpace (t : List Char) : Prop := t = [] ∨ ∃ u, t = ' ' :: u

/-- The text of words that each have a space before them. -/
def spaced (words : List (List Char)) : List Char := words.flatMap (' ' :: ·)

theorem atSpace_spaced (words : List (List Char)) : AtSpace (spaced words) := by
  cases words with
  | nil => exact .inl rfl
  | cons w words => exact .inr ⟨w ++ spaced words, rfl⟩

theorem intercalate_eq_append_spaced (first : List Char) (later : List (List Char)) :
    [' '].intercalate (first :: later) = first ++ spaced later := by
  induction later generalizing first with
  | nil => simp [spaced]
  | cons w later ih =>
      rw [List.intercalate_cons_cons, ih, List.append_assoc]
      rfl

/-- A text cut at a space is changed in two parts, each on its own. -/
theorem replaceEvery_append_of_atSpace (hlong : ' ' ∉ long) (ht : AtSpace t) (replacement : List Char)
    (s : List Char) :
    replaceEvery (' ' :: long) replacement (s ++ t) =
      replaceEvery (' ' :: long) replacement s ++ replaceEvery (' ' :: long) replacement t := by
  rcases ht with rfl | ⟨u, rfl⟩
  · rw [replaceEvery_nil, List.append_nil, List.append_nil]
  · have havoids : Text.Avoids [' '] long := by
      apply Text.avoids_of_forall_ne
      rintro c hc rfl
      exact hlong hc
    exact replaceEvery_cut (List.cons_ne_nil ' ' long) havoids ⟨lower u, rfl⟩ s

theorem replaceEvery_of_space_not_mem (hs : ' ' ∉ s) (replacement : List Char) :
    replaceEvery (' ' :: long) replacement s = s :=
  replaceEvery_of_not_holds (List.cons_ne_nil ' ' long) (Text.not_holds_of_space_not_mem hs)

theorem AtSpace.replaceEvery (ht : AtSpace t) :
    AtSpace (replaceEvery (' ' :: long) (' ' :: short) t) := by
  rcases ht with rfl | ⟨u, rfl⟩
  · exact .inl replaceEvery_nil
  · rw [replaceEvery_cons (List.cons_ne_nil ' ' long)]
    cases dropWord? (' ' :: long) (' ' :: u) with
    | some rest => exact .inr ⟨_, rfl⟩
    | none => exact .inr ⟨_, rfl⟩

/-! ## One direction in one word -/

/-- The word with a long beginning, in any case of its letters, made short. -/
def abbreviate (long short w : List Char) : List Char :=
  if long <+: lower w then short ++ w.drop long.length else w

theorem space_not_mem_abbreviate (hshort : ' ' ∉ short) (hw : ' ' ∉ w) :
    ' ' ∉ abbreviate long short w := by
  unfold abbreviate
  split
  · intro hmem
    rcases List.mem_append.mp hmem with h | h
    · exact hshort h
    · exact hw (List.mem_of_mem_drop h)
  · exact hw

theorem replaceEvery_word (hw : ' ' ∉ w) :
    replaceEvery (' ' :: long) (' ' :: short) (' ' :: w) = ' ' :: abbreviate long short w := by
  have hfront : dropWord? (' ' :: long) (' ' :: w) = dropWord? long w := rfl
  rw [replaceEvery_cons (List.cons_ne_nil ' ' long), hfront, Text.dropWord?_eq]
  by_cases hfound : long <+: lower w
  · have hrest : ' ' ∉ w.drop long.length := fun hmem => hw (List.mem_of_mem_drop hmem)
    rw [abbreviate, if_pos hfound, if_pos hfound]
    show _ ++ replaceEvery _ _ (w.drop long.length) = _
    rw [replaceEvery_of_space_not_mem hrest]
    rfl
  · rw [abbreviate, if_neg hfound, if_neg hfound]
    show ' ' :: replaceEvery _ _ w = _
    rw [replaceEvery_of_space_not_mem hw]

theorem replaceEvery_spaced {words : List (List Char)} (hlong : ' ' ∉ long)
    (hwords : ∀ w ∈ words, ' ' ∉ w) :
    replaceEvery (' ' :: long) (' ' :: short) (spaced words) =
      spaced (words.map (abbreviate long short)) := by
  induction words with
  | nil => exact replaceEvery_nil
  | cons w words ih =>
      obtain ⟨hw, hrest⟩ := List.forall_mem_cons.mp hwords
      -- The next word begins with its own space, so nothing found in this one reaches into it.
      show replaceEvery _ _ ((' ' :: w) ++ spaced words) = _
      rw [replaceEvery_append_of_atSpace hlong (atSpace_spaced words), replaceEvery_word hw, ih hrest]
      rfl

/-- One direction is made short in every word but the first, which has no space before it. -/
theorem replaceEvery_words {first : List Char} {later : List (List Char)} (hlong : ' ' ∉ long)
    (hwords : ∀ w ∈ first :: later, ' ' ∉ w) :
    replaceEvery (' ' :: long) (' ' :: short) (first ++ spaced later) =
      first ++ spaced (later.map (abbreviate long short)) := by
  obtain ⟨hfirst, hlater⟩ := List.forall_mem_cons.mp hwords
  rw [replaceEvery_append_of_atSpace hlong (atSpace_spaced later),
    replaceEvery_of_space_not_mem hfirst, replaceEvery_spaced hlong hlater]

/-! ## Both directions -/

/-- The word with a direction at its front, in any case of its letters, made short. -/
def shortenWord (w : List Char) : List Char :=
  if "ascending".toList <+: lower w then "ASC".toList ++ w.drop 9
  else if "descending".toList <+: lower w then "DESC".toList ++ w.drop 10
  else w

theorem abbreviate_descending_ascending (w : List Char) :
    abbreviate "descending".toList "DESC".toList (abbreviate "ascending".toList "ASC".toList w) =
      shortenWord w := by
  unfold shortenWord
  by_cases hasc : "ascending".toList <+: lower w
  · rw [if_pos hasc, abbreviate, abbreviate, if_pos hasc, if_neg]
    · rfl
    · simp [lower, List.cons_prefix_cons]
  · rw [if_neg hasc, abbreviate, abbreviate, if_neg hasc]
    rfl

theorem abbreviate_ascending_descending (w : List Char) :
    abbreviate "ascending".toList "ASC".toList (abbreviate "descending".toList "DESC".toList w) =
      shortenWord w := by
  unfold shortenWord
  by_cases hdesc : "descending".toList <+: lower w
  · have hasc : ¬ "ascending".toList <+: lower w := by
      intro hasc
      rcases List.prefix_or_prefix_of_prefix hasc hdesc with h | h
      · exact absurd h (by decide)
      · exact absurd h (by decide)
    rw [if_neg hasc, if_pos hdesc, abbreviate, abbreviate, if_pos hdesc, if_neg]
    · rfl
    · simp [lower, List.cons_prefix_cons]
  · rw [if_neg hdesc, abbreviate, abbreviate, if_neg hdesc]
    rfl

/-- Two directions are made short in every word but the first, one after the other. -/
theorem replaceEvery_replaceEvery_words {long' short' first : List Char} {later : List (List Char)}
    (hlong : ' ' ∉ long) (hlong' : ' ' ∉ long') (hshort : ' ' ∉ short)
    (hwords : ∀ w ∈ first :: later, ' ' ∉ w) :
    replaceEvery (' ' :: long') (' ' :: short')
        (replaceEvery (' ' :: long) (' ' :: short) (first ++ spaced later)) =
      first ++ spaced (later.map fun w => abbreviate long' short' (abbreviate long short w)) := by
  have hshortened : ∀ w ∈ first :: later.map (abbreviate long short), ' ' ∉ w := by
    obtain ⟨hfirst, hlater⟩ := List.forall_mem_cons.mp hwords
    refine List.forall_mem_cons.mpr ⟨hfirst, ?_⟩
    intro w hw
    obtain ⟨v, hv, rfl⟩ := List.mem_map.mp hw
    exact space_not_mem_abbreviate hshort (hlater v hv)
  rw [replaceEvery_words hlong hwords, replaceEvery_words hlong' hshortened, List.map_map]
  rfl

theorem space_not_mem_ascending : ' ' ∉ "ascending".toList := by decide

theorem space_not_mem_descending : ' ' ∉ "descending".toList := by decide

/-- The pass over the text for ascending directions. -/
def shortenAscending (s : List Char) : List Char := replaceEvery ascendingWord " ASC".toList s

/-- The pass over the text for descending directions. -/
def shortenDescending (s : List Char) : List Char := replaceEvery descendingWord " DESC".toList s

section Words

variable {first : List Char} {later : List (List Char)}

theorem shortenDescending_shortenAscending_words (hwords : ∀ w ∈ first :: later, ' ' ∉ w) :
    shortenDescending (shortenAscending (first ++ spaced later)) =
      first ++ spaced (later.map shortenWord) := by
  have hpasses : shortenDescending (shortenAscending (first ++ spaced later)) = _ :=
    replaceEvery_replaceEvery_words space_not_mem_ascending space_not_mem_descending (by decide) hwords
  rw [hpasses]
  exact congrArg (first ++ spaced ·) (List.map_congr_left fun w _ => abbreviate_descending_ascending w)

theorem shortenAscending_shortenDescending_words (hwords : ∀ w ∈ first :: later, ' ' ∉ w) :
    shortenAscending (shortenDescending (first ++ spaced later)) =
      first ++ spaced (later.map shortenWord) := by
  have hpasses : shortenAscending (shortenDescending (first ++ spaced later)) = _ :=
    replaceEvery_replaceEvery_words space_not_mem_descending space_not_mem_ascending (by decide) hwords
  rw [hpasses]
  exact congrArg (first ++ spaced ·) (List.map_congr_left fun w _ => abbreviate_ascending_descending w)

end Words

/-- Every text is put together from words. -/
theorem exists_words (s : List Char) :
    ∃ first later, (∀ w ∈ first :: later, ' ' ∉ w) ∧ s = [' '].intercalate (first :: later) := by
  induction s with
  | nil => exact ⟨[], [], by simp, rfl⟩
  | cons c s ih =>
      obtain ⟨first, later, hwords, rfl⟩ := ih
      obtain ⟨hfirst, hlater⟩ := List.forall_mem_cons.mp hwords
      rw [intercalate_eq_append_spaced]
      by_cases hc : c = ' '
      · refine ⟨[], first :: later, List.forall_mem_cons.mpr ⟨by simp, hwords⟩, ?_⟩
        rw [intercalate_eq_append_spaced, hc]
        rfl
      · refine ⟨c :: first, later, List.forall_mem_cons.mpr ⟨?_, hlater⟩, ?_⟩
        · simp [hfirst, Ne.symm hc]
        · rw [intercalate_eq_append_spaced]
          rfl

theorem shortenDirections_append (ht : AtSpace t) (s : List Char) :
    shortenDirections (s ++ t) = shortenDirections s ++ shortenDirections t := by
  have hcut : AtSpace (shortenAscending t) := ht.replaceEvery
  have hfirst : shortenAscending (s ++ t) = shortenAscending s ++ shortenAscending t :=
    replaceEvery_append_of_atSpace space_not_mem_ascending ht _ s
  have hsecond : shortenDescending (shortenAscending s ++ shortenAscending t) =
      shortenDescending (shortenAscending s) ++ shortenDescending (shortenAscending t) :=
    replaceEvery_append_of_atSpace space_not_mem_descending hcut _ _
  show shortenDescending (shortenAscending (s ++ t)) = _
  rw [hfirst, hsecond]
  rfl

/-- A clause cut at its spaces is changed word by word: each word but the first is made short when a
direction stands at its front, and nothing else changes.  So it does not matter which direction comes
first, and a clause can be changed in pieces that are cut at a space. -/
theorem directions_shortened_word_by_word (s : List Char) :
    (∃ first later, (∀ w ∈ first :: later, ' ' ∉ w) ∧ s = [' '].intercalate (first :: later)) ∧
    (∀ first later, (∀ w ∈ first :: later, ' ' ∉ w) → s = [' '].intercalate (first :: later) →
      shortenDirections s = [' '].intercalate (first :: later.map shortenWord)) ∧
    shortenDirections s = shortenDescending (shortenAscending s) ∧
    shortenDirections s = shortenAscending (shortenDescending s) ∧
    ∀ t, AtSpace t → shortenDirections (s ++ t) = shortenDirections s ++ shortenDirections t := by
  have hpasses : shortenDirections s = shortenDescending (shortenAscending s) := rfl
  refine ⟨exists_words s, ?_, hpasses, ?_, fun t ht => shortenDirections_append ht s⟩
  · rintro first later hwords rfl
    rw [hpasses, intercalate_eq_append_spaced, intercalate_eq_append_spaced]
    exact shortenDescending_shortenAscending_words hwords
  · obtain ⟨first, later, hwords, rfl⟩ := exists_words s
    rw [hpasses, intercalate_eq_append_spaced, shortenDescending_shortenAscending_words hwords,
      shortenAscending_shortenDescending_words hwords]

example : String.ofList (shortenDirections
    "ascending from t order by a Ascending, b DESCENDINGascending".toList) =
      "ascending from t order by a ASC, b DESCascending" := by cbv

end OpenSql.Dialect
