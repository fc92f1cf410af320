/-
# OpenSql.Proofs.Dialect.ColumnNames — column names that cannot get out of their quotes.

The column list of an insertion is read back by the rule by which the engine reads names: a name runs from
its quote to the next one that stands alone, and two quotes in a row are one quote of the name.  Writing
doubles every quote of a name, so inside of it no quote stands alone, whatever stands beside it.  The quote
that closes the name does, because only a comma or a parenthesis ever follows it.
-/
import OpenSql.Dialect.Mutation
import OpenSql.Engine.Token

namespace OpenSql.Dialect

open Engine.Token (quotedContent?)

/-! ## Reading names -/

/-- Reads names between double quotes with a comma between neighbours, and gives the text behind the last
one.  A comma has to be followed by another name; a text that does not begin with a quote has no names. -/
def readNames? (s : List Char) : Option (List String × List Char) :=
  match s with
  | '\"' :: s =>
    match quotedContent? '\"' s with
    | none => none
    | some (name, n) =>
      if (s.drop n).head? = some ',' then
        match readNames? (s.drop (n + 1)) with
        | some (next :: names, rest) => some (String.ofList name :: next :: names, rest)
        | _ => none
      else some ([String.ofList name], s.drop n)
  | _ => some ([], s)
termination_by s.length
decreasing_by
  simp only [List.length_drop, List.length_cons]
  omega

/-- The characters of a name as they stand between the quotes. -/
def doubled (name : List Char) : List Char :=
  name.flatMap fun c => if c = '\"' then ['\"', '\"'] else [c]

theorem quoteName_append (name rest : List Char) :
    quoteName name ++ rest = '\"' :: (doubled name ++ '\"' :: rest) := by
  simp [quoteName, doubled]

theorem doubled_cons_of_ne {c : Char} (hc : c ≠ '\"') (name : List Char) :
    doubled (c :: name) = c :: doubled name := by
  simp [doubled, hc]

theorem quotedContent?_plain {c : Char} (hc : c ≠ '\"') {s : List Char} (hs : s ≠ []) :
    quotedContent? '\"' (c :: s) =
      (quotedContent? '\"' s).map fun (content, n) => (c :: content, n + 1) := by
  cases s with
  | nil => exact absurd rfl hs
  | cons d s => simp [quotedContent?, hc]

/-- A name is read up to the quote that closes it, unless another quote follows. -/
theorem quotedContent?_doubled (name : List Char) {rest : List Char}
    (hrest : rest.head? ≠ some '\"') :
    quotedContent? '\"' (doubled name ++ '\"' :: rest) = some (name, (doubled name).length + 1) := by
  induction name with
  | nil =>
      cases rest with
      | nil => rfl
      | cons d rest =>
          have hd : d ≠ '\"' := by simpa using hrest
          simp [doubled, quotedContent?, hd]
  | cons c name ih =>
      by_cases hc : c = '\"'
      · subst hc
        show quotedContent? '\"' ('\"' :: '\"' :: (doubled name ++ '\"' :: rest)) = _
        rw [quotedContent?, if_pos rfl, if_pos rfl, ih]
        rfl
      · rw [doubled_cons_of_ne hc, List.cons_append, quotedContent?_plain hc (by simp), ih]
        rfl

/-- What is read as a name is the name as it is written, and what closes it. -/
theorem eq_of_quotedContent? {s name : List Char} {n : Nat}
    (h : quotedContent? '\"' s = some (name, n)) : s = doubled name ++ '\"' :: s.drop n := by
  fun_induction quotedContent? '\"' s generalizing name n with
  | case1 => cases h
  | case2 =>
      cases h
      rfl
  | case3 => cases h
  | case4 s ih =>
      -- Two quotes are one of the name.
      obtain ⟨⟨content, m⟩, hread, hname⟩ := Option.map_eq_some_iff.mp h
      cases hname
      show '\"' :: '\"' :: s = '\"' :: '\"' :: (doubled content ++ '\"' :: s.drop m)
      rw [← ih hread]
  | case5 =>
      cases h
      rfl
  | case6 c d s hc ih =>
      obtain ⟨⟨content, m⟩, hread, hname⟩ := Option.map_eq_some_iff.mp h
      cases hname
      rw [doubled_cons_of_ne hc]
      show c :: d :: s = c :: (doubled content ++ '\"' :: (d :: s).drop m)
      rw [← ih hread]

/-- One name is read, and a comma behind it asks for more. -/
theorem readNames?_quoteName (name : List Char) {rest : List Char}
    (hrest : rest.head? ≠ some '\"') :
    readNames? (quoteName name ++ rest) =
      if rest.head? = some ',' then
        match readNames? rest.tail with
        | some (next :: names, after) => some (String.ofList name :: next :: names, after)
        | _ => none
      else some ([String.ofList name], rest) := by
  have hbehind : (doubled name ++ '\"' :: rest).drop ((doubled name).length + 1) = rest := by
    simp [List.drop_append]
  have htail : (doubled name ++ '\"' :: rest).drop ((doubled name).length + 1 + 1) = rest.tail := by
    rw [← List.drop_drop, hbehind, List.drop_one]
  rw [quoteName_append, readNames?]
  simp only [quotedContent?_doubled name hrest, hbehind, htail]

/-! ## Column lists -/

theorem columnList_cons_cons (column next : String) (columns : List String) :
    columnList ((column :: next :: columns).map String.toList) =
      quoteName column.toList ++ ',' :: columnList ((next :: columns).map String.toList) := by
  simp [columnList, Text.joined]

/-- A column list is read back up to its end, where nothing may stand that would go on with it. -/
theorem readNames?_columnList (columns : List String) (rest : List Char)
    (hquote : rest.head? ≠ some '\"') (hcomma : rest.head? ≠ some ',') :
    readNames? (columnList (columns.map String.toList) ++ rest) = some (columns, rest) := by
  induction columns with
  | nil =>
      show readNames? rest = _
      unfold readNames?
      split
      · exact absurd rfl hquote
      · rfl
  | cons column columns ih =>
      cases columns with
      | nil =>
          show readNames? (quoteName column.toList ++ rest) = _
          rw [readNames?_quoteName _ hquote, if_neg hcomma, String.ofList_toList]
      | cons next columns =>
          -- Behind the name stands the comma that asks for the rest of the list.
          rw [columnList_cons_cons, List.append_assoc, List.cons_append,
            readNames?_quoteName _ (by simp), List.head?_cons, if_pos rfl]
          simp only [List.tail_cons, ih, String.ofList_toList]

/-- Nothing else is read as names but their list as it is written. -/
theorem eq_of_readNames? {s rest : List Char} {names : List String}
    (h : readNames? s = some (names, rest)) : s = columnList (names.map String.toList) ++ rest := by
  fun_induction readNames? s generalizing names rest with
  | case1 => cases h
  | case2 s name n hread hcomma next others after hmore ih =>
      cases h
      obtain ⟨more, hdrop⟩ := List.head?_eq_some_iff.mp hcomma
      have hbehind : s.drop (n + 1) = more := by
        rw [← List.tail_drop, hdrop]
        rfl
      rw [columnList_cons_cons, String.toList_ofList, List.append_assoc, quoteName_append,
        List.cons_append, ← ih hmore, hbehind, ← hdrop, ← eq_of_quotedContent? hread]
  | case3 => cases h
  | case4 s name n hread hcomma =>
      cases h
      show _ = quoteName (String.ofList name).toList ++ s.drop n
      rw [String.toList_ofList, quoteName_append, ← eq_of_quotedContent? hread]
  | case5 =>
      cases h
      rfl

/-- Different columns are written differently. -/
theorem columnList_injective {columns others : List String}
    (h : columnList (columns.map String.toList) = columnList (others.map String.toList)) :
    columns = others := by
  have hcolumns := readNames?_columnList columns [] (by simp) (by simp)
  have hothers := readNames?_columnList others [] (by simp) (by simp)
  rw [h, hothers] at hcolumns
  exact (congrArg Prod.fst (Option.some.inj hcolumns)).symm

theorem insertSql_eq (table : String) (columns values : List String) :
    (insertSql table columns values).toList = ("INSERT INTO " ++ table ++ " (").toList ++
      (columnList (columns.map String.toList) ++
        (") VALUES (" ++ String.intercalate "," values ++ ")").toList) := by
  unfold insertSql
  simp

/-- The columns of an insertion, whatever their names and whatever its table and its values.  Read by the
rule for names between double quotes from right behind the opening parenthesis, they come back in number,
order and spelling, and the reading stops at the parenthesis that closes the list.  Nothing but their
written form is read as these columns, and no two lists of columns are written in the same way. -/
theorem columns_read_back (table : String) (columns values : List String) :
    let sql := (insertSql table columns values).toList
    let opening := ("INSERT INTO " ++ table ++ " (").toList
    let closing := (") VALUES (" ++ String.intercalate "," values ++ ")").toList
    (opening <+: sql ∧ readNames? (sql.drop opening.length) = some (columns, closing)) ∧
    (∀ text rest, readNames? text = some (columns, rest) →
      text = columnList (columns.map String.toList) ++ rest) ∧
    ∀ others : List String,
      columnList (others.map String.toList) = columnList (columns.map String.toList) →
        others = columns := by
  intro sql opening closing
  have hsql : sql = opening ++ (columnList (columns.map String.toList) ++ closing) :=
    insertSql_eq table columns values
  have hfirst : closing.head? = some ')' := by simp [closing]
  refine ⟨⟨?_, ?_⟩, ?_, ?_⟩
  · rw [hsql]
    exact List.prefix_append opening _
  · rw [hsql, List.drop_left]
    apply readNames?_columnList columns closing
    · rw [hfirst]
      decide
    · rw [hfirst]
      decide
  · intro text rest hread
    exact eq_of_readNames? hread
  · intro others hsame
    exact columnList_injective hsame

end OpenSql.Dialect
