/-
# OpenSql.Proofs.Dialect.Leftovers — the row limits behind the first one.

A clause with a query inside a query can hold several row limits, and only the first of them is moved.
The later steps neither take a row limit apart nor put one together, so the statement holds the row
limits of the clause without its first one: every limit behind the first is left as it was written.
-/
import OpenSql.Proofs.Dialect.RowLimit

namespace OpenSql.Dialect

open Text (lower Avoids avoids_cons)

variable {s v limit digits other number : List Char}

/-! ## Texts that the later steps leave -/

/-- Neither a step behind the row limit nor an end of its word touches the text. -/
structure Stays (v : List Char) : Prop where
  order : Clear keyOrderClause v
  ascending : Clear ascendingWord v
  descending : Clear descendingWord v
  selector : '~' ∉ v

/-- A text that begins like no later word of a step, and holds none of their first words. -/
theorem Stays.of_front {b : Char} (hfront : [' ', b] <+: lower v)
    (hacross : ∀ word ∈ [keyOrderClause, ascendingWord, descendingWord], Avoids [' ', b] word.tail)
    (ho : Avoids [' ', 'o'] (lower v)) (ha : Avoids [' ', 'a'] (lower v))
    (hd : Avoids [' ', 'd'] (lower v)) (hselector : '~' ∉ v) : Stays v where
  order := ⟨ho.extend ⟨_, rfl⟩, (hacross _ (by simp)).extend hfront⟩
  ascending := ⟨ha.extend ⟨_, rfl⟩, (hacross _ (by simp)).extend hfront⟩
  descending := ⟨hd.extend ⟨_, rfl⟩, (hacross _ (by simp)).extend hfront⟩
  selector := hselector

theorem Stays.infix_expandKeyOrder (hstays : Stays v) (keys : List (List Char)) (hin : v <:+: s) :
    v <:+: expandKeyOrder keys s :=
  hstays.order.infix_replaceKeyOrder hin

theorem Stays.infix_shortenDirections (hstays : Stays v) (hin : v <:+: s) :
    v <:+: shortenDirections s :=
  hstays.descending.infix_replaceEvery (by decide) <|
    hstays.ascending.infix_replaceEvery (by decide) hin

theorem Stays.infix_qualify (hstays : Stays v) (hin : v <:+: s) : v <:+: qualify s := by
  rw [← qualify_of_not_mem hstays.selector]
  exact hin.map _

/-- What the steps leave is in the statement when it is in the clause with its key columns. -/
theorem Stays.infix_selectChars (hstays : Stays v) {keys : List (List Char)}
    (hin : v <:+: expandKeyOrder keys (hoistRowLimit s)) : v <:+: selectChars keys s :=
  hstays.infix_qualify (hstays.infix_shortenDirections hin)

/-! ## Limits are such texts -/

/-- A letter without a case that is in neither word of a row limit. -/
theorem IsRowLimit.not_mem {c : Char} (h : IsRowLimit limit digits) (hcase : c.toLower = c)
    (hwords : c ∉ limitHead ++ limitTail) (hdigit : c.isDigit = false) : c ∉ limit := by
  intro hmem
  have hlower : c ∈ lower limit := hcase ▸ List.mem_map_of_mem hmem
  obtain ⟨-, -, -, -, -, -, hdigits⟩ := id h
  rw [h.lower_eq] at hlower
  rcases List.mem_append.mp hlower with hc | hc
  · exact hwords (List.mem_append_left _ hc)
  · rcases List.mem_append.mp hc with hc | hc
    · exact ne_of_isDigit (hdigits c hc) hdigit rfl
    · exact hwords (List.mem_append_right _ hc)

theorem IsRowLimit.front (h : IsRowLimit limit digits) : [' ', 'u'] <+: lower limit := by
  rw [h.lower_eq]
  exact ⟨_, rfl⟩

/-- A row limit holds no word that begins with a space and a letter that none of its own begin with. -/
theorem IsRowLimit.avoids (h : IsRowLimit limit digits) {c : Char} (hc : c ∉ ['u', 't', 'r'])
    (hletter : c.isDigit = false) : Avoids [' ', c] (lower limit) := by
  obtain ⟨hu, hinside⟩ : 'u' ≠ c ∧ c ∉ ['t', 'r'] := by simpa [eq_comm] using hc
  obtain ⟨-, -, -, -, -, hne, hdigits⟩ := id h
  rw [h.lower_eq]
  exact avoids_cons.mpr ⟨by simp [hu, hu.symm],
    avoids_inside_limit hdigits hne hinside hletter⟩

theorem IsRowLimit.stays (h : IsRowLimit limit digits) : Stays limit :=
  .of_front h.front (by decide) (h.avoids (by decide) rfl) (h.avoids (by decide) rfl)
    (h.avoids (by decide) rfl) (h.not_mem rfl (by decide) rfl)

/-- The limit of SQL stays, too. -/
theorem stays_limit (hdigits : ∀ c ∈ digits, c.isDigit = true) (hne : digits ≠ []) :
    Stays (limitWord ++ digits) := by
  have hfront : [' ', 'l'] <+: lower (limitWord ++ digits) := by
    rw [Text.lower_append]
    exact ⟨_, rfl⟩
  exact .of_front hfront (by decide) (avoids_limit hdigits hne (by decide) rfl)
    (avoids_limit hdigits hne (by decide) rfl) (avoids_limit hdigits hne (by decide) rfl)
    (selector_not_mem_limit hdigits)

/-! ## No limit is put together -/

theorem IsRowLimit.infix_of_infix_qualify (h : IsRowLimit limit digits) (hin : limit <:+: qualify s) :
    limit <:+: s := by
  obtain ⟨v, hv, hmap⟩ := List.infix_map_iff.mp hin
  -- A selector would have become a point, and a row limit has none.
  have hselector : '~' ∉ v := by
    intro hmem
    have hpoint : '.' ∉ limit := h.not_mem rfl (by decide) rfl
    exact hpoint (hmap ▸ List.mem_map_of_mem hmem)
  have hsame : limit = v := hmap.trans (qualify_of_not_mem hselector)
  rwa [hsame]

theorem IsRowLimit.infix_of_infix_replaceEvery (h : IsRowLimit limit digits) {word replacement : List Char}
    {c : Char} (hne : word ≠ []) (hc : c ∉ ['u', 't', 'r']) (hletter : c.isDigit = false)
    (hfront : [' ', c] <+: lower replacement) (hreplacement : Avoids [' ', 'u'] (lower replacement))
    (hin : limit <:+: replaceEvery word replacement s) : limit <:+: s :=
  Dialect.infix_of_infix_replaceEvery hne ((h.avoids hc hletter).extend hfront)
    (hreplacement.extend h.front) s hin

/-- A row limit is in the statement exactly when it is in the clause that has lost its first one and got
its key columns. -/
theorem IsRowLimit.infix_selectChars_iff (h : IsRowLimit limit digits) {keys : List (List Char)} :
    limit <:+: selectChars keys s ↔ limit <:+: expandKeyOrder keys (hoistRowLimit s) := by
  refine ⟨fun hin => ?_, h.stays.infix_selectChars⟩
  have hdescending := h.infix_of_infix_qualify hin
  have hascending := h.infix_of_infix_replaceEvery (c := 'd') (by decide) (by decide) rfl ⟨_, rfl⟩
    (by decide) hdescending
  exact h.infix_of_infix_replaceEvery (c := 'a') (by decide) (by decide) rfl ⟨_, rfl⟩ (by decide)
    hascending

theorem hasRowLimit_selectChars_iff {keys : List (List Char)} :
    HasRowLimit (selectChars keys s) ↔ HasRowLimit (expandKeyOrder keys (hoistRowLimit s)) := by
  rw [hasRowLimit_iff, hasRowLimit_iff]
  constructor
  · rintro ⟨limit, digits, hlimit, hin⟩
    exact ⟨limit, digits, hlimit, hlimit.infix_selectChars_iff.mp hin⟩
  · rintro ⟨limit, digits, hlimit, hin⟩
    exact ⟨limit, digits, hlimit, hlimit.infix_selectChars_iff.mpr hin⟩

/-! ## The first limit and the others -/

/-- Two row limits in one place have the same number. -/
theorem IsRowLimit.number_eq {rest rest' : List Char} (h : IsRowLimit limit digits)
    (hother : IsRowLimit other number) (heq : limit ++ rest = other ++ rest') : digits = number := by
  have hread : rowLimit? (limit ++ rest) = some (digits, rest) :=
    rowLimit?_eq_some_iff.mpr ⟨limit, rfl, h⟩
  have hread' : rowLimit? (limit ++ rest) = some (number, rest') :=
    rowLimit?_eq_some_iff.mpr ⟨other, heq, hother⟩
  exact (Prod.mk.inj (Option.some.inj (hread.symm.trans hread'))).1

/-- A clause taken apart at its first row limit, with what follows it on its line and from the end of
that line on. -/
structure FirstLimit (s before limit digits line rest : List Char) : Prop where
  split : s = before ++ (limit ++ (line ++ rest))
  isLimit : IsRowLimit limit digits
  first : ¬ HasRowLimit before
  line : ∀ c ∈ line, c ≠ '\n'
  rest : ∀ c ∈ rest.head?, c = '\n'

/-- Each row limit of the clause has become one of SQL in the statement, and none is left there. -/
def LimitsMoved (s sql : List Char) : Prop :=
  (∀ limit digits, IsRowLimit limit digits → limit <:+: s → limitWord ++ digits <:+: sql) ∧
    ¬ HasRowLimit sql

theorem exists_firstLimit (h : HasRowLimit s) :
    ∃ before limit digits line rest, FirstLimit s before limit digits line rest := by
  induction s with
  | nil => exact absurd h not_hasRowLimit_nil
  | cons c s ih =>
      cases hread : rowLimit? (c :: s) with
      | some read =>
          obtain ⟨digits, after⟩ := read
          obtain ⟨limit, hsplit, hlimit⟩ := rowLimit?_eq_some_iff.mp hread
          refine ⟨[], limit, digits, after.takeWhile (· != '\n'), after.dropWhile (· != '\n'), ?_,
            hlimit, not_hasRowLimit_nil, fun d hd => ?_, fun d hd => ?_⟩
          · rw [List.takeWhile_append_dropWhile]
            exact hsplit
          · simpa using List.mem_takeWhile_imp hd
          · have hend := List.head?_dropWhile_not (· != '\n') after
            rw [Option.mem_def.mp hd] at hend
            simpa using hend
      | none =>
          have hs : HasRowLimit s := (hasRowLimit_cons.mp h).resolve_left (by simp [hread])
          obtain ⟨before, limit, digits, line, rest, hfirst⟩ := ih hs
          refine ⟨c :: before, limit, digits, line, rest, congrArg (c :: ·) hfirst.split,
            hfirst.isLimit, fun hbefore => ?_, hfirst.line, hfirst.rest⟩
          rcases hasRowLimit_cons.mp hbefore with hsome | hbefore
          · -- A limit that begins with the letter would have been read in the whole text, too.
            obtain ⟨⟨number, after⟩, hfront⟩ := Option.isSome_iff_exists.mp hsome
            obtain ⟨other, hother, hisLimit⟩ := rowLimit?_eq_some_iff.mp hfront
            have hwhole : rowLimit? (c :: s) = some (number, after ++ (limit ++ (line ++ rest))) := by
              refine rowLimit?_eq_some_iff.mpr ⟨other, ?_, hisLimit⟩
              rw [← List.append_assoc, ← hother, hfirst.split, List.cons_append]
            rw [hread] at hwhole
            cases hwhole
          · exact hfirst.first hbefore

namespace FirstLimit

variable {before line rest : List Char}

theorem hoistRowLimit_eq (h : FirstLimit s before limit digits line rest) :
    hoistRowLimit s = before ++ (line ++ (limitWord ++ (digits ++ rest))) := by
  rw [h.split]
  exact hoistRowLimit_append h.isLimit h.line h.rest h.first

/-- Any other row limit lies in the rest of the line or below it. -/
theorem infix_of_infix (h : FirstLimit s before limit digits line rest)
    (hother : IsRowLimit other number) (hin : other <:+: s) :
    number = digits ∨ other <:+: line ∨ other <:+: rest := by
  have hbehind (hin : other <:+: line ++ rest) : other <:+: line ∨ other <:+: rest := by
    cases rest with
    | nil => exact .inl (by simpa using hin)
    | cons c rest =>
        obtain rfl : c = '\n' := h.rest c rfl
        have hline : '\n' ∉ other := hother.not_mem rfl (by decide) rfl
        refine (Text.infix_of_infix_append_cons hin hline).imp_right fun hrest => ?_
        exact hrest.trans (List.suffix_cons _ rest).isInfix
  obtain ⟨front, after, hsplit⟩ := hin
  rw [h.split, List.append_assoc] at hsplit
  -- Limits do not overlap: it begins before the first one, which then holds it, or at it, or behind it.
  rcases List.append_eq_append_iff.mp hsplit with ⟨gap, hgap, hsame⟩ | ⟨gap, hgap, hsame⟩
  · by_cases hnil : gap = []
    · subst hnil
      exact .inl (hother.number_eq h.isLimit hsame)
    · have hinside : other <:+: before := by
        have hprefix := h.isLimit.prefix_of_append_eq hother hnil hsame.symm
        exact hprefix.isInfix.trans (hgap ▸ List.suffix_append front gap).isInfix
      exact absurd (hasRowLimit_iff.mpr ⟨other, number, hother, hinside⟩) h.first
  · by_cases hnil : gap = []
    · subst hnil
      exact .inl (hother.number_eq h.isLimit hsame.symm)
    · obtain ⟨skipped, rfl⟩ := hother.prefix_of_append_eq h.isLimit hnil hsame.symm
      rw [List.append_assoc] at hsame
      exact .inr (hbehind (List.append_cancel_left hsame ▸ List.infix_append' skipped other after))

/-- What stays is in the statement, if it stands behind the first limit or in what has become of it. -/
theorem infix_selectChars (h : FirstLimit s before limit digits line rest) (hstays : Stays v)
    (keys : List (List Char)) (hin : v <:+: line ∨ v <:+: rest ∨ v <:+: limitWord ++ digits) :
    v <:+: selectChars keys s := by
  refine hstays.infix_selectChars (hstays.infix_expandKeyOrder keys ?_)
  rw [h.hoistRowLimit_eq]
  rcases hin with hin | hin | hin
  · exact hin.trans ⟨before, limitWord ++ (digits ++ rest), by simp⟩
  · exact hin.trans ⟨before ++ line ++ limitWord ++ digits, [], by simp⟩
  · exact hin.trans ⟨before ++ line, rest, by simp⟩

/-- The first limit has become one of SQL. -/
theorem limit_infix_selectChars (h : FirstLimit s before limit digits line rest)
    (keys : List (List Char)) : limitWord ++ digits <:+: selectChars keys s := by
  obtain ⟨-, -, -, -, -, hne, hdigits⟩ := h.isLimit
  exact h.infix_selectChars (stays_limit hdigits hne) keys (.inr (.inr List.infix_rfl))

theorem limitsMoved_iff (h : FirstLimit s before limit digits line rest) (keys : List (List Char)) :
    LimitsMoved s (selectChars keys s) ↔ ¬ HasRowLimit (selectChars keys s) := by
  refine ⟨fun hmoved => hmoved.2, fun hclear => ⟨fun other number hother hin => ?_, hclear⟩⟩
  -- With none in the statement there is none behind the first one.
  rcases h.infix_of_infix hother hin with rfl | hbehind
  · exact h.limit_infix_selectChars keys
  · have hleft := h.infix_selectChars hother.stays keys (hbehind.imp_right .inl)
    exact absurd (hasRowLimit_iff.mpr ⟨other, number, hother, hleft⟩) hclear

end FirstLimit

/-! ## The limits of a statement -/

/-- Of the row limits of a clause the first one becomes a limit of SQL, and those behind it stay in the
statement as they are.  So all of them have moved exactly when none is left in the clause with its first
one moved and its key columns in place. -/
theorem only_first_row_limit_moves (select : String) (primaryKey : Option (List String))
    (hlimit : HasRowLimit select.toList) :
    let keys := (primaryKey.getD []).map String.toList
    let sql := (selectSql select primaryKey).toList
    (∃ before limit digits line rest, FirstLimit select.toList before limit digits line rest) ∧
    ∀ before limit digits line rest, FirstLimit select.toList before limit digits line rest →
      let moved := expandKeyOrder keys (before ++ (line ++ (limitWord ++ (digits ++ rest))))
      limitWord ++ digits <:+: sql ∧
      (∀ other number, IsRowLimit other number →
        (other <:+: line ∨ other <:+: rest → other <:+: sql) ∧
          (other <:+: sql ↔ other <:+: moved)) ∧
      (LimitsMoved select.toList sql ↔ ¬ HasRowLimit moved) := by
  intro keys sql
  refine ⟨exists_firstLimit hlimit, ?_⟩
  intro before limit digits line rest hfirst moved
  have hsql : sql = selectChars keys select.toList := String.toList_ofList
  have hmoved : moved = expandKeyOrder keys (hoistRowLimit select.toList) :=
    congrArg (expandKeyOrder keys) hfirst.hoistRowLimit_eq.symm
  rw [hsql, hmoved, hfirst.limitsMoved_iff, hasRowLimit_selectChars_iff]
  refine ⟨hfirst.limit_infix_selectChars keys, fun other number hother => ⟨fun hbehind => ?_, ?_⟩, .rfl⟩
  · exact hfirst.infix_selectChars hother.stays keys (hbehind.imp_right .inl)
  · exact hother.infix_selectChars_iff

theorem only_first_row_limit_moves_alone :
    let text := "select a~b from t up to 10 rows\norder by primary key"
    let sql := selectSql text (some ["id"])
    HasRowLimit text.toList ∧ " LIMIT 10".toList <:+: sql.toList ∧
      LimitsMoved text.toList sql.toList := by
  intro text sql
  have hlimit : HasRowLimit text.toList := by decide
  have hfirst : FirstLimit text.toList "select a~b from t".toList " up to 10 rows".toList "10".toList
      [] "\norder by primary key".toList :=
    { split := by decide
      isLimit := ⟨" up to ".toList, " rows".toList, by decide, by decide, by decide, by decide, by simp⟩
      first := by decide
      line := by simp
      rest := by simp }
  obtain ⟨-, hall⟩ := only_first_row_limit_moves text (some ["id"]) hlimit
  obtain ⟨hnumber, -, hmoved⟩ := hall _ _ _ _ _ hfirst
  exact ⟨hlimit, hnumber, hmoved.mpr (by decide)⟩

/-! ## A limit that is left -/

/-- A query with a row limit around one with a row limit, on two lines. -/
def nestedLimits : String := "SELECT a FROM ( SELECT a FROM t UP TO 5 ROWS\n ) UP TO 2 ROWS"

theorem selectSql_nestedLimits :
    selectSql nestedLimits none = "SELECT a FROM ( SELECT a FROM t LIMIT 5\n ) UP TO 2 ROWS" := by
  let moved : String := "SELECT a FROM ( SELECT a FROM t LIMIT 5\n ) UP TO 2 ROWS"
  have hfirst : expandKeyOrder [] (hoistRowLimit nestedLimits.toList) = moved.toList := by decide
  have hascending : Avoids ascendingWord (lower moved.toList) := by decide
  have hdescending : Avoids descendingWord (lower moved.toList) := by decide
  have hdirections : shortenDirections moved.toList = moved.toList := by
    unfold shortenDirections
    rw [replaceEvery_of_not_holds (by decide) (hascending.not_holds List.prefix_rfl (by decide)),
      replaceEvery_of_not_holds (by decide) (hdescending.not_holds List.prefix_rfl (by decide))]
  have hqualify : qualify moved.toList = moved.toList := by decide
  show String.ofList (qualify (shortenDirections (expandKeyOrder [] (hoistRowLimit _)))) = moved
  rw [hfirst, hdirections, hqualify, String.ofList_toList]

/-- The limit of the outer query is left. -/
theorem row_limit_left_in_nestedLimits : ¬ ∀ (select : String) (primaryKey : Option (List String)),
    HasRowLimit select.toList → (∀ key ∈ primaryKey.getD [], ¬ HasRowLimit key.toList) →
      LimitsMoved select.toList (selectSql select primaryKey).toList := by
  intro hall
  obtain ⟨-, hnone⟩ := hall nestedLimits none (by decide) (by simp)
  rw [selectSql_nestedLimits] at hnone
  exact hnone (by decide)

end OpenSql.Dialect
