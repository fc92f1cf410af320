/-
# OpenSql.Proofs.Dialect.Steps — steps of the translation on a text put together from two.

Two steps look for words: one replaces the first ordering by the primary key, the other every long word
for a direction.  A step leaves a text alone that does not hold its word, and it passes by an end of a
text that neither holds the word nor lets it run across the cut.  In the middle of a text it passes by
whatever is clear of its word, which neither begins inside nor ends across it.
-/
import OpenSql.Dialect.Select
import OpenSql.Proofs.Text.Words

namespace OpenSql.Dialect

open Text (lower dropWord? Avoids Holds avoids_cons)

variable {front word replacement t v : List Char}

/-- No word begins inside the text and no word ends in it. -/
structure Clear (word v : List Char) : Prop where
  inside : Avoids word (lower v)
  across : Avoids (lower v) word.tail

/-! ## The ordering by the primary key -/

theorem replaceKeyOrder_cons (c : Char) (s : List Char) :
    replaceKeyOrder replacement (c :: s) = match dropWord? keyOrderClause (c :: s) with
      | some rest => replacement ++ rest
      | none => c :: replaceKeyOrder replacement s := rfl

theorem replaceKeyOrder_of_not_holds {s : List Char} (h : ¬ Holds keyOrderClause s) :
    replaceKeyOrder replacement s = s := by
  induction s with
  | nil => rfl
  | cons c s ih =>
      obtain ⟨hfront, hrest⟩ := not_or.mp (mt Text.holds_cons.mpr h)
      rw [replaceKeyOrder_cons, Option.not_isSome_iff_eq_none.mp hfront, ih hrest]

/-- In a text put together from two the clause is looked for in the first one and then in the second. -/
theorem replaceKeyOrder_cut (havoids : Avoids front keyOrderClause.tail) (hfront : front <+: lower t)
    (replacement s : List Char) :
    (Holds keyOrderClause s →
      replaceKeyOrder replacement (s ++ t) = replaceKeyOrder replacement s ++ t) ∧
    (¬ Holds keyOrderClause s →
      replaceKeyOrder replacement (s ++ t) = s ++ replaceKeyOrder replacement t) := by
  induction s with
  | nil =>
      refine ⟨?_, fun _ => rfl⟩
      rintro ⟨before, after, hnil, hsome⟩
      obtain ⟨rfl, rfl⟩ := List.append_eq_nil_iff.mp hnil.symm
      cases hsome
  | cons c s ih =>
      rw [Text.holds_cons, List.cons_append, replaceKeyOrder_cons, replaceKeyOrder_cons,
        Text.dropWord?_cons_append havoids hfront]
      cases dropWord? keyOrderClause (c :: s) with
      | some rest => exact ⟨fun _ => (List.append_assoc ..).symm, fun h => absurd (.inl rfl) h⟩
      | none =>
          refine ⟨fun h => ?_, fun h => congrArg (c :: ·) (ih.2 fun hs => h (.inr hs))⟩
          exact congrArg (c :: ·) (ih.1 (h.resolve_left Bool.false_ne_true))

theorem replaceKeyOrder_append (havoids : Avoids front keyOrderClause) (hfront : front <+: lower t)
    (ht : ¬ Holds keyOrderClause t) (s : List Char) :
    replaceKeyOrder replacement (s ++ t) = replaceKeyOrder replacement s ++ t := by
  obtain ⟨hfirst, hsecond⟩ :=
    replaceKeyOrder_cut (avoids_cons.mp havoids).2 hfront replacement s
  by_cases hs : Holds keyOrderClause s
  · exact hfirst hs
  · rw [hsecond hs, replaceKeyOrder_of_not_holds hs, replaceKeyOrder_of_not_holds ht]

theorem replaceKeyOrder_pass (havoids : Avoids keyOrderClause (lower v)) (t : List Char) :
    replaceKeyOrder replacement (v ++ t) = v ++ replaceKeyOrder replacement t := by
  induction v with
  | nil => rfl
  | cons c v ih =>
      have hnone : dropWord? keyOrderClause (c :: (v ++ t)) = none :=
        Text.dropWord?_append_eq_none havoids (List.cons_ne_nil c v) t
      rw [List.cons_append, replaceKeyOrder_cons, hnone]
      exact congrArg (c :: ·) (ih (avoids_cons.mp havoids).2)

/-- What is clear of the clause is still there when the clause has been replaced. -/
theorem Clear.infix_replaceKeyOrder (hclear : Clear keyOrderClause v) {s : List Char}
    (hin : v <:+: s) : v <:+: replaceKeyOrder replacement s := by
  obtain ⟨before, after, rfl⟩ := hin
  have hfront : lower v <+: lower (v ++ after) := (List.prefix_append v after).map Char.toLower
  rw [List.append_assoc]
  obtain ⟨hfirst, hsecond⟩ :=
    replaceKeyOrder_cut hclear.across hfront replacement before
  by_cases hbefore : Holds keyOrderClause before
  · rw [hfirst hbefore]
    exact List.infix_append' _ _ _
  · rw [hsecond hbefore, replaceKeyOrder_pass hclear.inside]
    exact List.infix_append' _ _ _

/-! ## Sort directions -/

theorem replaceEvery_nil : replaceEvery word replacement [] = [] := by
  simp [replaceEvery]

theorem replaceEvery_cons (hne : word ≠ []) (c : Char) (s : List Char) :
    replaceEvery word replacement (c :: s) = match dropWord? word (c :: s) with
      | some rest => replacement ++ replaceEvery word replacement rest
      | none => c :: replaceEvery word replacement s := by
  rw [replaceEvery, dif_neg hne]
  split
  · next rest h => simp [h]
  · next h => simp [h]

theorem replaceEvery_of_not_holds (hne : word ≠ []) {s : List Char} (h : ¬ Holds word s) :
    replaceEvery word replacement s = s := by
  induction s with
  | nil => exact replaceEvery_nil
  | cons c s ih =>
      obtain ⟨hfront, hrest⟩ := not_or.mp (mt Text.holds_cons.mpr h)
      rw [replaceEvery_cons hne, Option.not_isSome_iff_eq_none.mp hfront]
      exact congrArg (c :: ·) (ih hrest)

/-- A text put together from two can be changed piece by piece. -/
theorem replaceEvery_cut (hne : word ≠ []) (havoids : Avoids front word.tail)
    (hfront : front <+: lower t) (s : List Char) :
    replaceEvery word replacement (s ++ t) =
      replaceEvery word replacement s ++ replaceEvery word replacement t := by
  -- Behind a word that was found the step goes on with a shorter text.
  induction hlength : s.length using Nat.strong_induction_on generalizing s with
  | _ n ih =>
    subst hlength
    cases s with
    | nil => rw [List.nil_append, replaceEvery_nil, List.nil_append]
    | cons c s =>
        rw [List.cons_append, replaceEvery_cons hne, replaceEvery_cons hne,
          Text.dropWord?_cons_append havoids hfront]
        cases hfound : dropWord? word (c :: s) with
        | some rest =>
            have hrest := ih rest.length (Text.length_lt_of_dropWord? hfound hne) rest rfl
            simp only [Option.map_some]
            rw [hrest, List.append_assoc]
        | none => exact congrArg (c :: ·) (ih s.length (Nat.lt_succ_self _) s rfl)

theorem replaceEvery_append (hne : word ≠ []) (havoids : Avoids front word)
    (hfront : front <+: lower t) (ht : ¬ Holds word t) (s : List Char) :
    replaceEvery word replacement (s ++ t) = replaceEvery word replacement s ++ t := by
  have htail : Avoids front word.tail := havoids.of_suffix (List.tail_suffix word)
  rw [replaceEvery_cut hne htail hfront, replaceEvery_of_not_holds hne ht]

theorem replaceEvery_pass (hne : word ≠ []) (havoids : Avoids word (lower v)) (t : List Char) :
    replaceEvery word replacement (v ++ t) = v ++ replaceEvery word replacement t := by
  induction v with
  | nil => rfl
  | cons c v ih =>
      have hnone : dropWord? word (c :: (v ++ t)) = none :=
        Text.dropWord?_append_eq_none havoids (List.cons_ne_nil c v) t
      rw [List.cons_append, replaceEvery_cons hne, hnone]
      exact congrArg (c :: ·) (ih (avoids_cons.mp havoids).2)

/-- What is clear of the word is still there when the word has been replaced. -/
theorem Clear.infix_replaceEvery (hclear : Clear word v) (hne : word ≠ []) {s : List Char}
    (hin : v <:+: s) : v <:+: replaceEvery word replacement s := by
  obtain ⟨before, after, rfl⟩ := hin
  have hfront : lower v <+: lower (v ++ after) := (List.prefix_append v after).map Char.toLower
  rw [List.append_assoc, replaceEvery_cut hne hclear.across hfront,
    replaceEvery_pass hne hclear.inside]
  exact List.infix_append' _ _ _

/-! ## What was there before -/

theorem prefix_of_prefix_replaceEvery (hne : word ≠ []) (havoids : Avoids (lower replacement) (lower v))
    {s : List Char} (hin : v <+: replaceEvery word replacement s) : v <+: s := by
  induction v generalizing s with
  | nil => exact List.nil_prefix
  | cons d v ih =>
      cases s with
      | nil => rwa [replaceEvery_nil] at hin
      | cons c s =>
          rw [replaceEvery_cons hne] at hin
          cases hfound : dropWord? word (c :: s) with
          | none =>
              simp only [hfound] at hin
              obtain ⟨rfl, hrest⟩ := List.cons_prefix_cons.mp hin
              exact List.cons_prefix_cons.mpr ⟨rfl, ih (avoids_cons.mp havoids).2 hrest⟩
          | some rest =>
              -- A replacement at the front would agree with the text.
              simp only [hfound] at hin
              obtain ⟨hshort, hlong⟩ := havoids _ List.suffix_rfl (List.cons_ne_nil _ _)
              rcases List.prefix_or_prefix_of_prefix hin (List.prefix_append _ _) with h | h
              · exact absurd (h.map Char.toLower) hshort
              · exact absurd (h.map Char.toLower) hlong

/-- What does not agree with the replacement in any place was there before the word was replaced. -/
theorem infix_of_infix_replaceEvery (hne : word ≠ []) (hbehind : Avoids (lower replacement) (lower v))
    (hbefore : Avoids (lower v) (lower replacement)) (s : List Char)
    (hin : v <:+: replaceEvery word replacement s) : v <:+: s := by
  induction hlength : s.length using Nat.strong_induction_on generalizing s with
  | _ n ih =>
    subst hlength
    cases s with
    | nil => rwa [replaceEvery_nil] at hin
    | cons c s =>
        rw [replaceEvery_cons hne] at hin
        cases hfound : dropWord? word (c :: s) with
        | some rest =>
            simp only [hfound] at hin
            have hrest := ih rest.length (Text.length_lt_of_dropWord? hfound hne) rest
              (Text.infix_of_infix_append_of_avoids hbefore hin) rfl
            obtain ⟨head, hsplit, -⟩ := Text.dropWord?_eq_some_iff.mp hfound
            exact hrest.trans (hsplit ▸ List.suffix_append head rest).isInfix
        | none =>
            simp only [hfound] at hin
            rcases List.infix_cons_iff.mp hin with h | h
            · have hfront : v <+: replaceEvery word replacement (c :: s) := by
                simpa only [replaceEvery_cons hne, hfound] using h
              exact (prefix_of_prefix_replaceEvery hne hbehind hfront).isInfix
            · have hrest := ih s.length (Nat.lt_succ_self _) s h rfl
              exact hrest.trans (List.suffix_cons c s).isInfix

/-! ## The component selector -/

theorem qualify_of_not_mem {s : List Char} (h : '~' ∉ s) : qualify s = s := by
  refine (List.map_congr_left fun c hc => if_neg ?_).trans (List.map_id s)
  rintro rfl
  exact h hc

end OpenSql.Dialect
