/-
# OpenSql.Proofs.Dialect.KeyOrder — an ordering by the primary key is shorthand.

A clause that orders by the primary key stands for the one in which the columns are written out, or for
the one without the ordering when there are no columns.  The words of the ordering cannot overlap: none of
their ends is a beginning of them.  So they are found where they stand, whatever text is before them, and
the columns come in between two texts that stay as they are.  The names of columns have no meaning to the
step; the steps behind it read them as they read the rest of the text.
-/
import OpenSql.Proofs.Dialect.RowLimit

namespace OpenSql.Dialect

open Text (lower Holds)

variable {p r clause s t : List Char}

/-! ## The first ordering of a text -/

instance (s : List Char) : Decidable (HasKeyOrder s) := inferInstanceAs (Decidable (Holds _ s))

theorem hasKeyOrder_iff : HasKeyOrder s ↔ ∃ v, lower v = keyOrderClause ∧ v <:+: s :=
  Text.holds_iff

theorem not_hasKeyOrder_iff : ¬ HasKeyOrder s ↔ ∀ v, lower v = keyOrderClause → ¬ v <:+: s :=
  Text.not_holds_iff

theorem HasKeyOrder.of_within (hs : HasKeyOrder s) (hwithin : s <:+: t) : HasKeyOrder t := by
  obtain ⟨v, hv, hin⟩ := hasKeyOrder_iff.mp hs
  exact hasKeyOrder_iff.mpr ⟨v, hv, hin.trans hwithin⟩

theorem replaceKeyOrder_of_front (hclause : lower clause = keyOrderClause)
    (replacement r : List Char) :
    replaceKeyOrder replacement (clause ++ r) = replacement ++ r := by
  have hread : Text.dropWord? keyOrderClause (clause ++ r) = some r :=
    Text.dropWord?_eq_some_iff.mpr ⟨clause, rfl, hclause⟩
  cases clause with
  | nil => cases hclause
  | cons c clause =>
      rw [List.cons_append] at hread ⊢
      rw [replaceKeyOrder_cons, hread]

/-- Behind a text without the words of an ordering the first ordering is the one that follows. -/
theorem replaceKeyOrder_append_clause (hp : ¬ HasKeyOrder p) (hclause : lower clause = keyOrderClause)
    (replacement r : List Char) :
    replaceKeyOrder replacement (p ++ (clause ++ r)) = p ++ (replacement ++ r) := by
  have hfront : [' ', 'o'] <+: lower (clause ++ r) := by
    rw [Text.lower_append, hclause]
    exact ⟨_, rfl⟩
  -- Behind their first letter the words hold no space before an `o`, so they do not run across the cut.
  obtain ⟨-, hsecond⟩ := replaceKeyOrder_cut (by decide) hfront replacement p
  rw [hsecond hp, replaceKeyOrder_of_front hclause]

theorem expandKeyOrder_of_not_hasKeyOrder (hs : ¬ HasKeyOrder s) (keys : List (List Char)) :
    expandKeyOrder keys s = s :=
  replaceKeyOrder_of_not_holds hs

/-! ## Columns written out -/

/-- An ordering by key columns, written out; there is none without columns. -/
def writtenOut : Option (List String) → String
  | none => ""
  | some [] => ""
  | some (key :: keys) => " ORDER BY " ++ ", ".intercalate (key :: keys)

theorem toList_writtenOut (primaryKey : Option (List String)) :
    (writtenOut primaryKey).toList = keyOrdering ((primaryKey.getD []).map String.toList) := by
  rcases primaryKey with _ | _ | ⟨key, keys⟩
  · rfl
  · rfl
  · show (" ORDER BY " ++ ", ".intercalate (key :: keys)).toList = _
    rw [String.toList_append, String.toList_intercalate]
    simp only [Option.getD_some, List.map_cons, keyOrdering, Text.joined_eq_intercalate]
    rfl

/-- Without a row limit the steps behind the ordering read the text with its columns in place. -/
theorem selectSql_of_clause {p clause r : String} (primaryKey : Option (List String))
    (hclause : lower clause.toList = keyOrderClause) (hp : ¬ HasKeyOrder p.toList)
    (hlimit : ¬ HasRowLimit (p ++ clause ++ r).toList) :
    (selectSql (p ++ clause ++ r) primaryKey).toList =
      qualify (shortenDirections (p ++ writtenOut primaryKey ++ r).toList) := by
  rw [selectSql, String.toList_ofList, selectChars, hoistRowLimit_of_not_hasRowLimit hlimit]
  simp only [String.toList_append, List.append_assoc, toList_writtenOut]
  rw [expandKeyOrder, replaceKeyOrder_append_clause hp hclause]

theorem selectSql_of_plain {q : String} (primaryKey : Option (List String))
    (horder : ¬ HasKeyOrder q.toList) (hlimit : ¬ HasRowLimit q.toList) :
    (selectSql q primaryKey).toList = qualify (shortenDirections q.toList) := by
  rw [selectSql, String.toList_ofList, selectChars, hoistRowLimit_of_not_hasRowLimit hlimit,
    expandKeyOrder_of_not_hasKeyOrder horder]

/-- A clause that orders by the primary key is translated as the text in which the columns are written
out, letter by letter.  If that text does not order by a primary key itself, this is its translation, for
whatever key columns. -/
theorem key_order_is_shorthand (p clause r : String) (primaryKey other : Option (List String))
    (hclause : lower clause.toList = " order by primary key".toList)
    (hlimit : ∀ limit digits, IsRowLimit limit digits → ¬ limit <:+: (p ++ clause ++ r).toList) :
    let q := p ++ writtenOut primaryKey ++ r
    ((∀ v, lower v = " order by primary key".toList → ¬ v <:+: p.toList) →
      (selectSql (p ++ clause ++ r) primaryKey).toList = qualify (shortenDirections q.toList)) ∧
    ((∀ v, lower v = " order by primary key".toList → ¬ v <:+: q.toList) →
      (∀ limit digits, IsRowLimit limit digits → ¬ limit <:+: q.toList) →
      selectSql (p ++ clause ++ r) primaryKey = selectSql q other) := by
  intro q
  have hnone := not_hasRowLimit_iff.mpr hlimit
  refine ⟨fun hp => ?_, fun hq hqlimit => ?_⟩
  · exact selectSql_of_clause primaryKey hclause (not_hasKeyOrder_iff.mpr hp) hnone
  · have horder : ¬ HasKeyOrder q.toList := not_hasKeyOrder_iff.mpr hq
    -- What stands before the clause is a part of the other text, too.
    have hp : ¬ HasKeyOrder p.toList := by
      intro h
      apply horder
      apply h.of_within
      simp only [q, String.toList_append, List.append_assoc]
      exact (List.prefix_append ..).isInfix
    apply String.toList_inj.mp
    rw [selectSql_of_clause primaryKey hclause hp hnone,
      selectSql_of_plain other horder (not_hasRowLimit_iff.mpr hqlimit)]

theorem key_order_is_shorthand_for_odd_names :
    let keys := ["$1", "a~b", "c descending"]
    let clause := " order By primary KEY"
    let text := "select a from t" ++ clause ++ ""
    let q := "select a from t" ++ writtenOut (some keys) ++ ""
    lower clause.toList = " order by primary key".toList ∧
    (∀ v, lower v = " order by primary key".toList → ¬ v <:+: q.toList) ∧
    (∀ limit digits, IsRowLimit limit digits → ¬ limit <:+: text.toList ∧ ¬ limit <:+: q.toList) ∧
    q = "select a from t ORDER BY $1, a~b, c descending" ∧ selectSql text (some keys) = selectSql q none := by
  intro keys clause text q
  have hclause : lower clause.toList = " order by primary key".toList := by decide
  have horder := not_hasKeyOrder_iff.mp (by decide : ¬ HasKeyOrder q.toList)
  have hlimit := not_hasRowLimit_iff.mp (by decide : ¬ HasRowLimit text.toList)
  have hqlimit := not_hasRowLimit_iff.mp (by decide : ¬ HasRowLimit q.toList)
  obtain ⟨-, hshorthand⟩ :=
    key_order_is_shorthand "select a from t" clause "" (some keys) none hclause hlimit
  refine ⟨hclause, horder, fun limit digits h => ⟨hlimit limit digits h, hqlimit limit digits h⟩,
    by decide, hshorthand horder hqlimit⟩

end OpenSql.Dialect
