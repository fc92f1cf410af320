/-
# OpenSql.Proofs.Text.Words — words in a text that is put together from two.

A word is found at whatever place it begins, and without regard to the case of its letters.  In a text
put together from two it can lie in the first, in the second or across the cut.  What excludes the last is
a look at the letters with which the second text begins: when no end of the word agrees with them, nothing
runs across the cut.
-/
import Mathlib.Data.List.Infix
import OpenSql.Text.Ascii

namespace OpenSql.Text

/-! ## Places in a text -/

section Places

variable {P : List Char → Prop} {s : List Char}

/-- Something holds of the text from some place on exactly when it holds of one of the ends. -/
theorem exists_mem_tails_iff :
    (∃ after ∈ s.tails, P after) ↔ ∃ before after, s = before ++ after ∧ P after := by
  constructor
  · rintro ⟨after, hafter, hholds⟩
    obtain ⟨before, hsplit⟩ := (List.mem_tails after s).mp hafter
    exact ⟨before, after, hsplit.symm, hholds⟩
  · rintro ⟨before, after, rfl, hholds⟩
    exact ⟨after, (List.mem_tails after _).mpr (List.suffix_append before after), hholds⟩

/-- The place is the front of the text, or it is a place of the rest. -/
theorem exists_split_cons {c : Char} :
    (∃ before after, c :: s = before ++ after ∧ P after) ↔
      P (c :: s) ∨ ∃ before after, s = before ++ after ∧ P after := by
  constructor
  · rintro ⟨before, after, hsplit, hholds⟩
    cases before with
    | nil => exact .inl (hsplit ▸ hholds)
    | cons d before =>
        obtain ⟨-, rfl⟩ := List.cons.inj hsplit
        exact .inr ⟨before, after, rfl, hholds⟩
  · rintro (hholds | ⟨before, after, rfl, hholds⟩)
    · exact ⟨[], c :: s, rfl, hholds⟩
    · exact ⟨c :: before, after, rfl, hholds⟩

end Places

/-! ## Letters -/

/-- Only the capital letters change. -/
theorem toLower_cases (c : Char) :
    c.toLower = c ∨ 65 ≤ c.toNat ∧ c.toNat ≤ 90 ∧ c.toLower.toNat = c.toNat + 32 := by
  by_cases hletter : 'A'.val ≤ c.val ∧ c.val ≤ 'Z'.val
  · have hlow : 65 ≤ c.toNat := hletter.1
    have hhigh : c.toNat ≤ 90 := hletter.2
    have hlower : c.toLower.toNat = (c.val + 32).toNat :=
      congrArg Char.toNat (dif_pos (c := c.val ≥ 'A'.val ∧ c.val ≤ 'Z'.val) hletter)
    refine .inr ⟨hlow, hhigh, ?_⟩
    rw [hlower, UInt32.toNat_add]
    show (c.toNat + 32) % 2 ^ 32 = _
    omega
  · exact .inl (dif_neg hletter)

theorem eq_space_of_toLower {c : Char} (h : c.toLower = ' ') : c = ' ' := by
  rcases toLower_cases c with hsame | ⟨hlow, hhigh, hlower⟩
  · exact hsame ▸ h
  · rw [h] at hlower
    have hspace : ' '.toNat = 32 := rfl
    omega

/-- The digits end before the capital letters begin. -/
theorem toLower_of_isDigit {c : Char} (hdigit : c.isDigit = true) : c.toLower = c := by
  obtain ⟨-, hhigh⟩ : '0'.val ≤ c.val ∧ c.val ≤ '9'.val := by simpa [Char.isDigit] using hdigit
  refine dif_neg fun hletter => ?_
  exact absurd (UInt32.le_trans hletter.1 hhigh) (by decide)

theorem lower_of_digits {s : List Char} (hdigits : ∀ c ∈ s, c.isDigit = true) : lower s = s := by
  have hsame : s.map Char.toLower = s.map id :=
    List.map_congr_left fun c hc => toLower_of_isDigit (hdigits c hc)
  rw [lower, hsame, List.map_id]

@[simp]
theorem lower_append (s t : List Char) : lower (s ++ t) = lower s ++ lower t := List.map_append

/-- A word is dropped exactly from the front of a text that begins with it. -/
theorem dropWord?_eq_some_iff {word s rest : List Char} :
    dropWord? word s = some rest ↔ ∃ head, s = head ++ rest ∧ lower head = word := by
  constructor
  · exact dropWord?_append
  · rintro ⟨head, rfl, rfl⟩
    induction head with
    | nil => exact dropWord?_nil rest
    | cons c head ih => simpa [lower, dropWord?] using ih

theorem prefix_lower_cons {w c : Char} {ws s : List Char} :
    w :: ws <+: lower (c :: s) ↔ c.toLower = w ∧ ws <+: lower s := by
  rw [lower, List.map_cons, List.cons_prefix_cons, eq_comm]
  rfl

theorem dropWord?_eq (word s : List Char) :
    dropWord? word s = if word <+: lower s then some (s.drop word.length) else none := by
  induction word generalizing s with
  | nil => simp
  | cons w ws ih =>
      cases s with
      | nil => simp [dropWord?, lower]
      | cons c s =>
          by_cases hc : c.toLower = w
          · simp [dropWord?, prefix_lower_cons, hc, ih]
          · simp [dropWord?, prefix_lower_cons, hc]

/-- The word stands somewhere in the text. -/
def Holds (word s : List Char) : Prop :=
  ∃ before after, s = before ++ after ∧ (dropWord? word after).isSome

theorem holds_iff {word s : List Char} : Holds word s ↔ ∃ v, lower v = word ∧ v <:+: s := by
  constructor
  · rintro ⟨before, after, rfl, hsome⟩
    obtain ⟨rest, hrest⟩ := Option.isSome_iff_exists.mp hsome
    obtain ⟨v, rfl, hv⟩ := dropWord?_eq_some_iff.mp hrest
    exact ⟨v, hv, List.infix_append' before v rest⟩
  · rintro ⟨v, hv, before, rest, rfl⟩
    refine ⟨before, v ++ rest, List.append_assoc .., ?_⟩
    rw [dropWord?_eq_some_iff.mpr ⟨v, rfl, hv⟩]
    rfl

theorem not_holds_iff {word s : List Char} : ¬ Holds word s ↔ ∀ v, lower v = word → ¬ v <:+: s := by
  rw [holds_iff]
  exact ⟨fun h v hv hin => h ⟨v, hv, hin⟩, fun h ⟨v, hv, hin⟩ => h v hv hin⟩

instance (word s : List Char) : Decidable (Holds word s) :=
  decidable_of_iff (∃ after ∈ s.tails, (dropWord? word after).isSome) exists_mem_tails_iff

/-- A word that begins with a space stands only in a text with a space. -/
theorem not_holds_of_space_not_mem {word s : List Char} (hs : ' ' ∉ s) : ¬ Holds (' ' :: word) s := by
  rw [holds_iff]
  rintro ⟨v, hv, hin⟩
  obtain ⟨c, rest, rfl, hc, -⟩ := List.map_eq_cons_iff.mp hv
  obtain rfl : c = ' ' := eq_space_of_toLower hc
  exact hs (hin.mem List.mem_cons_self)

theorem holds_cons {word s : List Char} {c : Char} :
    Holds word (c :: s) ↔ (dropWord? word (c :: s)).isSome ∨ Holds word s :=
  exists_split_cons

/-! ## Ends of a text that agree with a front -/

/-- No end of the text agrees with the front as far as both of them go. -/
def Avoids (front s : List Char) : Prop :=
  ∀ v, v <:+ s → v ≠ [] → ¬ v <+: front ∧ ¬ front <+: v

instance (front s : List Char) : Decidable (Avoids front s) :=
  decidable_of_iff (∀ v ∈ s.tails, v ≠ [] → ¬ v <+: front ∧ ¬ front <+: v) (by simp [Avoids])

theorem avoids_cons {front s : List Char} {c : Char} :
    Avoids front (c :: s) ↔ (¬ c :: s <+: front ∧ ¬ front <+: c :: s) ∧ Avoids front s := by
  constructor
  · intro h
    exact ⟨h _ List.suffix_rfl (List.cons_ne_nil c s), fun v hv => h v (hv.trans (List.suffix_cons c s))⟩
  · rintro ⟨hwhole, hs⟩ v hv hne
    rcases List.suffix_cons_iff.mp hv with rfl | hv
    · exact hwhole
    · exact hs v hv hne

theorem Avoids.of_suffix {front s t : List Char} (h : Avoids front t) (hs : s <:+ t) : Avoids front s :=
  fun v hv => h v (hv.trans hs)

/-- What keeps clear of the beginning of a text keeps clear of the text. -/
theorem Avoids.extend {front whole s : List Char} (h : Avoids front s) (hfront : front <+: whole) :
    Avoids whole s := by
  intro v hv hne
  obtain ⟨hshort, hlong⟩ := h v hv hne
  refine ⟨fun hprefix => ?_, fun hprefix => hlong (hfront.trans hprefix)⟩
  rcases List.prefix_or_prefix_of_prefix hprefix hfront with h | h
  · exact hshort h
  · exact hlong h

/-- Letters other than the first of the front keep clear of it. -/
theorem Avoids.append {front s t : List Char} {a : Char} (hs : ∀ c ∈ s, c ≠ a)
    (ht : Avoids (a :: front) t) : Avoids (a :: front) (s ++ t) := by
  induction s with
  | nil => exact ht
  | cons c s ih =>
      have hc : c ≠ a := hs c List.mem_cons_self
      refine avoids_cons.mpr ⟨by simp [hc, hc.symm], ?_⟩
      exact ih fun d hd => hs d (List.mem_cons_of_mem c hd)

theorem avoids_of_forall_ne {front s : List Char} {a : Char} (hs : ∀ c ∈ s, c ≠ a) :
    Avoids (a :: front) s := by
  have hnil : Avoids (a :: front) [] := by
    intro v hv hne
    exact absurd (List.suffix_nil.mp hv) hne
  simpa using Avoids.append hs hnil

/-- A word behind a space keeps clear of a space before another letter. -/
theorem Avoids.spaced {s t : List Char} {c d : Char} (hd : d ≠ c) (hs : ∀ x ∈ d :: s, x ≠ ' ')
    (ht : Avoids [' ', c] t) : Avoids [' ', c] (' ' :: d :: (s ++ t)) :=
  avoids_cons.mpr ⟨by simp [hd, hd.symm], .append (s := d :: s) hs ht⟩

/-- A text in which no end agrees with the beginning of a word does not hold the word. -/
theorem Avoids.not_holds {front word s : List Char} (h : Avoids front (lower s))
    (hfront : front <+: word) (hne : word ≠ []) : ¬ Holds word s := by
  rintro ⟨before, after, rfl, hafter⟩
  obtain ⟨rest, hrest⟩ := Option.isSome_iff_exists.mp hafter
  obtain ⟨head, rfl, rfl⟩ := dropWord?_eq_some_iff.mp hrest
  have hsuffix : lower (head ++ rest) <:+ lower (before ++ (head ++ rest)) := by
    rw [lower_append before]
    exact List.suffix_append _ _
  have hstart : front <+: lower (head ++ rest) := by
    rw [lower_append]
    exact hfront.trans (List.prefix_append _ _)
  refine (h _ hsuffix ?_).2 hstart
  rw [lower_append]
  exact List.append_ne_nil_of_left_ne_nil hne _

/-- A word that keeps clear of the beginning of the second text is dropped from the first or not at
all. -/
theorem dropWord?_append_of_avoids {front word t : List Char} (havoids : Avoids front word)
    (hfront : front <+: lower t) (s : List Char) :
    dropWord? word (s ++ t) = (dropWord? word s).map (· ++ t) := by
  induction word generalizing s with
  | nil => simp
  | cons w ws ih =>
      cases s with
      | nil =>
          -- The whole word would have to begin the second text, and both fronts would agree.
          rw [List.nil_append, dropWord?, Option.map_none]
          refine Option.eq_none_iff_forall_ne_some.mpr fun rest hrest => ?_
          obtain ⟨head, rfl, hhead⟩ := dropWord?_eq_some_iff.mp hrest
          rw [lower_append, hhead] at hfront
          obtain ⟨hword, hstart⟩ := havoids (w :: ws) List.suffix_rfl (List.cons_ne_nil w ws)
          rcases List.prefix_or_prefix_of_prefix hfront (List.prefix_append _ _) with h | h
          · exact hstart h
          · exact hword h
      | cons c s =>
          rw [List.cons_append]
          simp only [dropWord?]
          split
          · exact ih (avoids_cons.mp havoids).2 s
          · rfl

/-- Behind a letter it is enough that the word keeps clear of the second text behind its own first
letter. -/
theorem dropWord?_cons_append {front word t : List Char} (havoids : Avoids front word.tail)
    (hfront : front <+: lower t) (c : Char) (s : List Char) :
    dropWord? word (c :: (s ++ t)) = (dropWord? word (c :: s)).map (· ++ t) := by
  cases word with
  | nil => simp
  | cons w ws =>
      simp only [dropWord?]
      split
      · exact dropWord?_append_of_avoids havoids hfront s
      · rfl

/-- A word is not dropped from a text that begins with another one, if no end of that other one agrees with
the word. -/
theorem dropWord?_append_eq_none {word v : List Char} (havoids : Avoids word (lower v)) (hne : v ≠ [])
    (t : List Char) : dropWord? word (v ++ t) = none := by
  refine Option.eq_none_iff_forall_ne_some.mpr fun rest hrest => ?_
  obtain ⟨head, hsplit, rfl⟩ := dropWord?_eq_some_iff.mp hrest
  have hhead : lower head <+: lower v ++ lower t := by
    rw [← lower_append, hsplit, lower_append]
    exact List.prefix_append _ _
  obtain ⟨hshort, hlong⟩ := havoids (lower v) List.suffix_rfl (by simpa [lower] using hne)
  rcases List.prefix_or_prefix_of_prefix hhead (List.prefix_append _ _) with h | h
  · exact hlong h
  · exact hshort h

/-- A text that lies within two lies in the second, if no end of the first agrees with it. -/
theorem infix_of_infix_append_of_avoids {v r t : List Char} (havoids : Avoids (lower v) (lower r))
    (hin : v <:+: r ++ t) : v <:+: t := by
  -- Where it begins in the first text, an end of that text agrees with it.
  have hbegins (u : List Char) (hend : u <:+ r) (hagree : u <+: v ∨ v <+: u) : u = [] := by
    by_contra hne
    obtain ⟨hshort, hlong⟩ :=
      havoids (lower u) (hend.map Char.toLower) (by simpa [lower] using hne)
    rcases hagree with h | h
    · exact hshort (h.map Char.toLower)
    · exact hlong (h.map Char.toLower)
  rcases List.infix_append_iff.mp hin with ⟨before, after, hr⟩ | h | ⟨u, rest, rfl, hend, hrest⟩
  · have hnil : v ++ after = [] :=
      hbegins _ ⟨before, by rw [← hr, List.append_assoc]⟩ (.inr (List.prefix_append _ _))
    rw [(List.append_eq_nil_iff.mp hnil).1]
    exact List.nil_infix
  · exact h
  · have hnil : u = [] := hbegins u hend (.inl (List.prefix_append _ _))
    rw [hnil, List.nil_append]
    exact hrest.isInfix

/-- A text without a letter that lies within another one lies on one side of that letter. -/
theorem infix_of_infix_append_cons {v s t : List Char} {c : Char} (hin : v <:+: s ++ c :: t)
    (hc : c ∉ v) : v <:+: s ∨ v <:+: t := by
  rcases List.infix_append_iff.mp hin with h | h | ⟨u, rest, rfl, hend, hrest⟩
  · exact .inl h
  · rcases List.infix_cons_iff.mp h with h | h
    · rcases List.prefix_cons_iff.mp h with rfl | ⟨w, rfl, -⟩
      · exact .inl List.nil_infix
      · exact absurd List.mem_cons_self hc
    · exact .inr h
  · rcases List.prefix_cons_iff.mp hrest with rfl | ⟨w, rfl, -⟩
    · rw [List.append_nil]
      exact .inl hend.isInfix
    · exact absurd (List.mem_append_right u List.mem_cons_self) hc

/-- A text that lies within two lies in one of them, if none of its ends but itself agrees with the front
of the second. -/
theorem infix_of_infix_append {front v s t : List Char} (havoids : Avoids front v.tail)
    (hfront : front <+: t) (hin : v <:+: s ++ t) : v <:+: s ∨ v <:+: t := by
  rcases List.infix_append_iff.mp hin with h | h | ⟨u, rest, rfl, hend, hrest⟩
  · exact .inl h
  · exact .inr h
  · -- The cut is at one of the two ends, or what is behind it would agree with the front.
    by_cases hu : u = []
    · subst hu
      exact .inr (by simpa using hrest.isInfix)
    by_cases hnil : rest = []
    · subst hnil
      exact .inl (by simpa using hend.isInfix)
    have hsuffix : rest <:+ (u ++ rest).tail := by
      rw [List.tail_append_of_ne_nil hu]
      exact List.suffix_append _ _
    obtain ⟨hshort, hlong⟩ := havoids rest hsuffix hnil
    rcases List.prefix_or_prefix_of_prefix hrest hfront with h | h
    · exact absurd h hshort
    · exact absurd h hlong

/-! ## Exact words -/

theorem isSome_dropExact?_iff {word s : List Char} : (dropExact? word s).isSome ↔ word <+: s := by
  rw [Option.isSome_iff_exists]
  constructor
  · rintro ⟨rest, hrest⟩
    exact ⟨rest, (dropExact?_eq_some_iff.mp hrest).symm⟩
  · rintro ⟨rest, rfl⟩
    exact ⟨rest, dropExact?_eq_some_iff.mpr rfl⟩

theorem containsExact_iff {word s : List Char} : containsExact word s = true ↔ word <:+: s := by
  induction s with
  | nil => rw [containsExact, List.isEmpty_iff, List.infix_nil]
  | cons c s ih =>
      rw [containsExact, Bool.or_eq_true, isSome_dropExact?_iff, ih, List.infix_cons_iff]

/-- What follows a front does not matter when front and word differ where both have a letter. -/
theorem not_prefix_append {word front : List Char} (hword : ¬ word <+: front) (hfront : ¬ front <+: word)
    (rest : List Char) : ¬ word <+: front ++ rest := by
  intro h
  rcases List.prefix_or_prefix_of_prefix h (List.prefix_append front rest) with h | h
  · exact hword h
  · exact hfront h

/-! ## Texts with a separator -/

theorem joined_eq_intercalate (separator : List Char) (texts : List (List Char)) :
    joined separator texts = separator.intercalate texts := by
  fun_induction joined separator texts with
  | case1 => simp
  | case2 s => simp
  | case3 s t rest ih => rw [List.intercalate_cons_cons, ih]

end OpenSql.Text
