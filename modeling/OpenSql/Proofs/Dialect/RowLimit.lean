/-
# OpenSql.Proofs.Dialect.RowLimit — where a row limit goes.

A row limit is its words, in any case of their letters, around a number.  Two of them never overlap, so
the first one of a text is found whatever stands before it.  Its number is set behind the rest of its
line, and what is set there begins with a word that no later step of the translation looks for, so the
steps pass it by: a limit at the end of a clause is the same as a limit on the translated clause.
-/
import Mathlib.Data.List.Infix
import Mathlib.Data.List.TakeWhile
import OpenSql.Proofs.Dialect.Steps

namespace OpenSql.Dialect

open Text (lower dropWord? Avoids Holds avoids_cons)

/-! ## Row limits in a text -/

/-- A row limit of the dialect with its number. -/
def IsRowLimit (limit digits : List Char) : Prop :=
  ∃ head tail, limit = head ++ (digits ++ tail) ∧ lower head = limitHead ∧ lower tail = limitTail ∧
    digits ≠ [] ∧ ∀ c ∈ digits, c.isDigit = true

instance (s : List Char) : Decidable (HasRowLimit s) :=
  decidable_of_iff (∃ after ∈ s.tails, (rowLimit? after).isSome) Text.exists_mem_tails_iff

/-- A number ends where the word behind it begins. -/
theorem digits_before_tail {digits tail : List Char} (hdigits : ∀ c ∈ digits, c.isDigit = true)
    (htail : lower tail = limitTail) (rest : List Char) :
    (digits ++ (tail ++ rest)).takeWhile Char.isDigit = digits ∧
      (digits ++ (tail ++ rest)).dropWhile Char.isDigit = tail ++ rest := by
  cases tail with
  | nil => cases htail
  | cons c tail =>
      have hc : c.isDigit = false := by
        refine Bool.eq_false_iff.mpr fun hdigit => ?_
        obtain ⟨hspace, -⟩ := List.cons.inj htail
        rw [Text.toLower_of_isDigit hdigit] at hspace
        subst hspace
        cases hdigit
      rw [List.takeWhile_append_of_pos hdigits, List.dropWhile_append_of_pos hdigits]
      simp [hc]

/-- What is read off the front of a text is a row limit, and every row limit there is read. -/
theorem rowLimit?_eq_some_iff {s digits rest : List Char} :
    rowLimit? s = some (digits, rest) ↔ ∃ limit, s = limit ++ rest ∧ IsRowLimit limit digits := by
  constructor
  · intro h
    unfold rowLimit? at h
    cases hhead : dropWord? limitHead s with
    | none => simp [hhead] at h
    | some afterHead =>
        simp only [hhead] at h
        split at h
        · cases h
        · next hne =>
            obtain ⟨afterTail, htail, hpair⟩ := Option.map_eq_some_iff.mp h
            obtain ⟨rfl, rfl⟩ := Prod.mk.inj hpair
            obtain ⟨head, rfl, hlower⟩ := Text.dropWord?_eq_some_iff.mp hhead
            obtain ⟨tail, hrest, hlower'⟩ := Text.dropWord?_eq_some_iff.mp htail
            refine ⟨head ++ (afterHead.takeWhile Char.isDigit ++ tail), ?_, head, tail, rfl, hlower,
              hlower', by simpa using hne, fun c hc => List.mem_takeWhile_imp hc⟩
            rw [List.append_assoc, List.append_assoc, ← hrest, List.takeWhile_append_dropWhile]
  · rintro ⟨limit, rfl, head, tail, rfl, hhead, htail, hne, hdigits⟩
    -- The reader takes as many digits as it can, and these are the ones of the limit.
    obtain ⟨htake, hdrop⟩ := digits_before_tail hdigits htail rest
    have hafter : dropWord? limitHead (head ++ (digits ++ (tail ++ rest))) =
        some (digits ++ (tail ++ rest)) :=
      Text.dropWord?_eq_some_iff.mpr ⟨head, rfl, hhead⟩
    have htail' : dropWord? limitTail (tail ++ rest) = some rest :=
      Text.dropWord?_eq_some_iff.mpr ⟨tail, rfl, htail⟩
    unfold rowLimit?
    rw [List.append_assoc, List.append_assoc, hafter]
    simp [htake, hdrop, htail', hne]

theorem hasRowLimit_iff {s : List Char} :
    HasRowLimit s ↔ ∃ limit digits, IsRowLimit limit digits ∧ limit <:+: s := by
  constructor
  · rintro ⟨before, after, rfl, hsome⟩
    obtain ⟨⟨digits, rest⟩, hread⟩ := Option.isSome_iff_exists.mp hsome
    obtain ⟨limit, rfl, hlimit⟩ := rowLimit?_eq_some_iff.mp hread
    exact ⟨limit, digits, hlimit, before, rest, by simp⟩
  · rintro ⟨limit, digits, hlimit, before, rest, rfl⟩
    refine ⟨before, limit ++ rest, List.append_assoc .., ?_⟩
    rw [rowLimit?_eq_some_iff.mpr ⟨limit, rfl, hlimit⟩]
    rfl

theorem not_hasRowLimit_iff {s : List Char} :
    ¬ HasRowLimit s ↔ ∀ limit digits, IsRowLimit limit digits → ¬ limit <:+: s := by
  rw [hasRowLimit_iff]
  exact ⟨fun h limit digits hlimit hin => h ⟨limit, digits, hlimit, hin⟩,
    fun h ⟨limit, digits, hlimit, hin⟩ => h limit digits hlimit hin⟩

theorem not_hasRowLimit_nil : ¬ HasRowLimit [] := by
  decide

theorem hasRowLimit_cons {s : List Char} {c : Char} :
    HasRowLimit (c :: s) ↔ (rowLimit? (c :: s)).isSome ∨ HasRowLimit s :=
  Text.exists_split_cons

theorem HasRowLimit.of_within {s t : List Char} (hs : HasRowLimit s) (hwithin : s <:+: t) :
    HasRowLimit t := by
  obtain ⟨limit, digits, hlimit, hin⟩ := hasRowLimit_iff.mp hs
  exact hasRowLimit_iff.mpr ⟨limit, digits, hlimit, hin.trans hwithin⟩

/-! ## Row limits do not overlap -/

theorem IsRowLimit.lower_eq {limit digits : List Char} (h : IsRowLimit limit digits) :
    lower limit = limitHead ++ (digits ++ limitTail) := by
  obtain ⟨head, tail, rfl, hhead, htail, -, hdigits⟩ := h
  rw [Text.lower_append, Text.lower_append, hhead, htail, Text.lower_of_digits hdigits]

theorem ne_of_isDigit {c d : Char} (hc : c.isDigit = true) (hd : d.isDigit = false) : c ≠ d := by
  rintro rfl
  rw [hd] at hc
  cases hc

/-- Behind its first letter a row limit holds no word that begins with a space and a letter other than
those its own words begin with there. -/
theorem avoids_inside_limit {digits : List Char} (hdigits : ∀ c ∈ digits, c.isDigit = true)
    (hne : digits ≠ []) {c : Char} (hc : c ∉ ['t', 'r']) (hletter : c.isDigit = false) :
    Avoids [' ', c] (limitHead.tail ++ (digits ++ limitTail)) := by
  obtain ⟨ht, hr⟩ : 't' ≠ c ∧ 'r' ≠ c := by simpa [eq_comm, not_or] using hc
  have hrows : Avoids [' ', c] limitTail :=
    .spaced hr (by simp) (Text.avoids_of_forall_ne (s := []) (by simp)) (s := ['o', 'w', 's'])
  cases digits with
  | nil => exact absurd rfl hne
  | cons d digits =>
      have hd : d ≠ c := ne_of_isDigit (hdigits d List.mem_cons_self) hletter
      have hnumber : Avoids [' ', c] (' ' :: d :: (digits ++ limitTail)) :=
        .spaced hd (fun x hx => ne_of_isDigit (hdigits x hx) rfl) hrows
      have hto : Avoids [' ', c] (' ' :: 't' :: (['o'] ++ ' ' :: d :: (digits ++ limitTail))) :=
        .spaced ht (by simp) hnumber
      exact .append (s := ['u', 'p']) (by simp) hto

/-- A row limit that begins before another one ends before it. -/
theorem IsRowLimit.prefix_of_append_eq {limit digits other number before rest rest' : List Char}
    (hlimit : IsRowLimit limit digits) (hother : IsRowLimit other number) (hne : before ≠ [])
    (heq : before ++ (limit ++ rest) = other ++ rest') : other <+: before := by
  have hbefore : before <+: other ++ rest' := heq ▸ List.prefix_append _ _
  rcases List.prefix_or_prefix_of_prefix (List.prefix_append other rest') hbefore with h | ⟨inner, h⟩
  · exact h
  · by_contra hcross
    -- What the other one has behind `before` begins where the limit does, so both agree in front.
    have hinner : lower inner ≠ [] := by
      intro hnil
      rw [List.map_eq_nil_iff.mp hnil, List.append_nil] at h
      exact hcross (h ▸ List.prefix_rfl)
    have hsame : limit ++ rest = inner ++ rest' := by
      rw [← h, List.append_assoc] at heq
      exact List.append_cancel_left heq
    have hstart : [' ', 'u'] <+: lower inner ++ lower rest' := by
      rw [← Text.lower_append, ← hsame, Text.lower_append, hlimit.lower_eq]
      exact ⟨_, rfl⟩
    have havoids : Avoids [' ', 'u'] (lower inner) := by
      have hwhole := hother.lower_eq
      rw [← h, Text.lower_append] at hwhole
      cases before with
      | nil => exact absurd rfl hne
      | cons c before =>
          obtain ⟨-, hinside⟩ := List.cons.inj hwhole
          obtain ⟨-, -, -, -, -, hnumber, hdigits⟩ := hother
          have hclear := avoids_inside_limit hdigits hnumber (c := 'u') (by decide) rfl
          rw [show limitHead.tail ++ (number ++ limitTail) = lower before ++ lower inner from
            hinside.symm] at hclear
          exact hclear.of_suffix (List.suffix_append _ _)
    obtain ⟨hshort, hlong⟩ := havoids _ List.suffix_rfl hinner
    rcases List.prefix_or_prefix_of_prefix hstart (List.prefix_append _ _) with h' | h'
    · exact hlong h'
    · exact hshort h'

/-! ## The first limit -/

theorem hoistRowLimit_of_not_hasRowLimit {s : List Char} (h : ¬ HasRowLimit s) :
    hoistRowLimit s = s := by
  induction s with
  | nil => rfl
  | cons c s ih =>
      obtain ⟨hfront, hrest⟩ := not_or.mp (mt hasRowLimit_cons.mpr h)
      unfold hoistRowLimit
      rw [Option.not_isSome_iff_eq_none.mp hfront, ih hrest]

/-- A limit at the front of a text is set behind the rest of its line. -/
theorem hoistRowLimit_of_front {limit digits line s : List Char} (hlimit : IsRowLimit limit digits)
    (hline : ∀ c ∈ line, c ≠ '\n') (hs : ∀ c ∈ s.head?, c = '\n') :
    hoistRowLimit (limit ++ (line ++ s)) = line ++ (limitWord ++ (digits ++ s)) := by
  have hread : rowLimit? (limit ++ (line ++ s)) = some (digits, line ++ s) :=
    rowLimit?_eq_some_iff.mpr ⟨limit, rfl, hlimit⟩
  have hinside : ∀ c ∈ line, (c != '\n') = true := fun c hc => bne_iff_ne.mpr (hline c hc)
  have hend : s.takeWhile (· != '\n') = [] ∧ s.dropWhile (· != '\n') = s := by
    cases s with
    | nil => exact ⟨rfl, rfl⟩
    | cons c s => simp [hs c rfl]
  have hwhole := hlimit.lower_eq
  cases limit with
  | nil => cases hwhole
  | cons c limit =>
      rw [List.cons_append] at hread ⊢
      unfold hoistRowLimit
      rw [hread]
      simp only
      rw [List.takeWhile_append_of_pos hinside, List.dropWhile_append_of_pos hinside, hend.1, hend.2,
        List.append_nil, List.append_assoc, List.append_assoc]

/-- A limit behind a text without limits is the first one, and is set behind the rest of its line. -/
theorem hoistRowLimit_append {limit digits line s p : List Char} (hlimit : IsRowLimit limit digits)
    (hline : ∀ c ∈ line, c ≠ '\n') (hs : ∀ c ∈ s.head?, c = '\n') (hp : ¬ HasRowLimit p) :
    hoistRowLimit (p ++ (limit ++ (line ++ s))) = p ++ (line ++ (limitWord ++ (digits ++ s))) := by
  induction p with
  | nil => exact hoistRowLimit_of_front hlimit hline hs
  | cons c p ih =>
      have hnone : rowLimit? (c :: p ++ (limit ++ (line ++ s))) = none := by
        -- A limit read here would begin before the other, and so lie in the text before it.
        refine Option.eq_none_iff_forall_ne_some.mpr fun ⟨number, rest⟩ hread => ?_
        obtain ⟨other, heq, hother⟩ := rowLimit?_eq_some_iff.mp hread
        have hinside := hlimit.prefix_of_append_eq hother (List.cons_ne_nil c p) heq
        exact hp (hasRowLimit_iff.mpr ⟨other, number, hother, hinside.isInfix⟩)
      have hrest : ¬ HasRowLimit p := fun h => hp (h.of_within (List.suffix_cons c p).isInfix)
      rw [List.cons_append] at hnone ⊢
      unfold hoistRowLimit
      rw [hnone, ih hrest, List.cons_append]

/-! ## What the later steps make of a limit -/

/-- The limit of SQL holds no word that begins with a space and a letter other than its own. -/
theorem avoids_limit {digits : List Char} (hdigits : ∀ c ∈ digits, c.isDigit = true)
    (hne : digits ≠ []) {c : Char} (hc : c ≠ 'l') (hletter : c.isDigit = false) :
    Avoids [' ', c] (lower (limitWord ++ digits)) := by
  have hnumber : Avoids [' ', c] digits :=
    Text.avoids_of_forall_ne fun d hd => ne_of_isDigit (hdigits d hd) rfl
  rw [Text.lower_append, Text.lower_of_digits hdigits]
  show Avoids [' ', c] (' ' :: 'l' :: (['i', 'm', 'i', 't'] ++ ' ' :: digits))
  refine .spaced hc.symm (by simp) ?_
  cases digits with
  | nil => exact absurd rfl hne
  | cons d digits =>
      have hd : d ≠ c := ne_of_isDigit (hdigits d List.mem_cons_self) hletter
      exact avoids_cons.mpr ⟨by simp [hd, hd.symm], hnumber⟩

theorem selector_not_mem_limit {digits : List Char} (hdigits : ∀ c ∈ digits, c.isDigit = true) :
    '~' ∉ limitWord ++ digits := by
  intro hmem
  rcases List.mem_append.mp hmem with h | h
  · exact absurd h (by decide)
  · exact ne_of_isDigit (hdigits _ h) rfl rfl

/-- A limit at the end of a clause stays there, whatever is done to the clause. -/
theorem selectChars_append_limit {digits s : List Char} (hdigits : ∀ c ∈ digits, c.isDigit = true)
    (hne : digits ≠ []) (hnone : ¬ HasRowLimit (s ++ (limitWord ++ digits)))
    (keys : List (List Char)) :
    selectChars keys (s ++ (limitWord ++ digits)) = selectChars keys s ++ (limitWord ++ digits) := by
  have hs : ¬ HasRowLimit s := fun h => hnone (h.of_within (List.prefix_append ..).isInfix)
  have hfront : [' ', 'l'] <+: lower (limitWord ++ digits) := by
    rw [Text.lower_append]
    exact ⟨_, rfl⟩
  have horder : ¬ Holds keyOrderClause (limitWord ++ digits) :=
    (avoids_limit hdigits hne (c := 'o') (by decide) rfl).not_holds ⟨_, rfl⟩ (by decide)
  have hascending : ¬ Holds ascendingWord (limitWord ++ digits) :=
    (avoids_limit hdigits hne (c := 'a') (by decide) rfl).not_holds ⟨_, rfl⟩ (by decide)
  have hdescending : ¬ Holds descendingWord (limitWord ++ digits) :=
    (avoids_limit hdigits hne (c := 'd') (by decide) rfl).not_holds ⟨_, rfl⟩ (by decide)
  unfold selectChars expandKeyOrder shortenDirections
  rw [hoistRowLimit_of_not_hasRowLimit hnone, hoistRowLimit_of_not_hasRowLimit hs,
    replaceKeyOrder_append (by decide) hfront horder,
    replaceEvery_append (by decide) (by decide) hfront hascending,
    replaceEvery_append (by decide) (by decide) hfront hdescending, qualify, List.map_append]
  exact congrArg _ (qualify_of_not_mem (selector_not_mem_limit hdigits))

/-! ## The limit of a statement -/

/-- The limit of a clause goes behind the rest of its line, wherever it stands and however its words are
written; and behind a clause of one line it is a limit on what the clause alone is put into. -/
theorem row_limit_moves_behind {p limit digits line s : String} (primaryKey : Option (List String))
    (hlimit : IsRowLimit limit.toList digits.toList) (hline : ∀ c ∈ line.toList, c ≠ '\n')
    (hs : s = "" ∨ ∃ t, s = "\n" ++ t)
    (hnone : ∀ other number, IsRowLimit other number →
      ¬ other <:+: (p ++ line ++ " LIMIT " ++ digits ++ s).toList) :
    selectSql (p ++ limit ++ line ++ s) primaryKey =
        selectSql (p ++ line ++ " LIMIT " ++ digits ++ s) primaryKey ∧
      (s = "" → selectSql (p ++ line ++ " LIMIT " ++ digits ++ s) primaryKey =
        selectSql (p ++ line) primaryKey ++ " LIMIT " ++ digits) := by
  have hword : " LIMIT ".toList = limitWord := rfl
  have hclear : ¬ HasRowLimit
      (p.toList ++ (line.toList ++ (limitWord ++ (digits.toList ++ s.toList)))) := by
    intro h
    obtain ⟨other, number, hother, hin⟩ := hasRowLimit_iff.mp h
    exact hnone other number hother (by simpa [hword] using hin)
  have hend : ∀ c ∈ s.toList.head?, c = '\n' := by
    rcases hs with rfl | ⟨t, rfl⟩
    · simp
    · simp
  obtain ⟨-, -, -, -, -, hne, hdigits⟩ := id hlimit
  constructor
  · have hp : ¬ HasRowLimit p.toList := fun h => hclear (h.of_within (List.prefix_append ..).isInfix)
    unfold selectSql selectChars
    simp only [String.toList_append, List.append_assoc, hword]
    rw [hoistRowLimit_append hlimit hline hend hp, hoistRowLimit_of_not_hasRowLimit hclear]
  · rintro rfl
    have hclear' : ¬ HasRowLimit (p.toList ++ line.toList ++ (limitWord ++ digits.toList)) := by
      simpa using hclear
    have hstays := selectChars_append_limit hdigits hne hclear'
      ((primaryKey.getD []).map String.toList)
    apply String.toList_inj.mp
    simpa [selectSql, hword] using hstays

theorem row_limit_moves_behind_key_order :
    selectSql "select a~b from t Up To 05 roWs order by primary key" (some ["id"]) =
        selectSql "select a~b from t order by primary key LIMIT 05" (some ["id"]) ∧
      selectSql "select a~b from t order by primary key LIMIT 05" (some ["id"]) =
        selectSql "select a~b from t order by primary key" (some ["id"]) ++ " LIMIT " ++ "05" := by
  have hlimit : IsRowLimit " Up To 05 roWs".toList "05".toList :=
    ⟨" Up To ".toList, " roWs".toList, by decide, by decide, by decide, by decide, by simp⟩
  have hnone : ∀ other number, IsRowLimit other number → ¬ other <:+:
      ("select a~b from t" ++ " order by primary key" ++ " LIMIT " ++ "05" ++ "").toList := by
    intro other number hother hin
    have hclear : ¬ HasRowLimit "select a~b from t order by primary key LIMIT 05".toList := by decide
    exact hclear (hasRowLimit_iff.mpr ⟨other, number, hother, hin⟩)
  have hline : ∀ c ∈ " order by primary key".toList, c ≠ '\n' := by simp
  obtain ⟨hmoved, hstays⟩ :=
    row_limit_moves_behind (some ["id"]) hlimit hline (.inl rfl) hnone
  exact ⟨hmoved, hstays rfl⟩

end OpenSql.Dialect
