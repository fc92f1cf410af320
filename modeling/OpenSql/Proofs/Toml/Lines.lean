/-
# OpenSql.Proofs.Toml.Lines — entries that stand one to a line.

A key and the written form of a value on a line of their own add one entry to the table that is open.
A value is written when it is read back in full wherever a line break follows.  Strings and truth values
end by themselves; a number ends because the line break is no digit, and it is neither a date nor a real
because no mark stands between its digits.
-/
import OpenSql.Proofs.Toml.Quoting
import OpenSql.Toml.Reader

namespace OpenSql.Toml

/-! ## Digits before a line break -/

section Digits

variable {ds rest : List Char}

theorem moreDigits?_digits (hds : ∀ c ∈ ds, c.isDigit = true) :
    moreDigits? Char.isDigit (ds ++ '\n' :: rest) = some (ds, '\n' :: rest) := by
  induction ds with
  | nil => simp [moreDigits?]
  | cons c ds ih =>
      have hc : c.isDigit = true := hds c List.mem_cons_self
      have hunder : c ≠ '_' := by
        rintro rfl
        exact absurd hc (by decide)
      rw [List.cons_append, moreDigits?.eq_4 _ _ _ (by simp [hunder]) (by simp [hunder]), if_pos hc,
        ih fun d hd => hds d (List.mem_cons_of_mem c hd)]
      rfl

theorem readDigits?_digits (hne : ds ≠ []) (hds : ∀ c ∈ ds, c.isDigit = true) :
    readDigits? Char.isDigit (ds ++ '\n' :: rest) = some (ds, '\n' :: rest) := by
  cases ds with
  | nil => exact absurd rfl hne
  | cons c ds =>
      rw [List.cons_append, readDigits?, if_pos (hds c List.mem_cons_self),
        moreDigits?_digits fun d hd => hds d (List.mem_cons_of_mem c hd)]
      rfl

/-- A mark that is no digit does not begin what is left of the digits. -/
theorem dropExact?_digits (mark : Char) (hmark : mark.isDigit = false) (hbreak : mark ≠ '\n')
    (marks : List Char) (hds : ∀ c ∈ ds, c.isDigit = true) :
    Text.dropExact? (mark :: marks) (ds ++ '\n' :: rest) = none := by
  cases ds with
  | nil => simp [Text.dropExact?, hbreak.symm]
  | cons c ds =>
      have hc : c ≠ mark := by
        rintro rfl
        exact absurd (hds c List.mem_cons_self) (by simp [hmark])
      simp [Text.dropExact?, hc]

/-- A field of a date or a time takes digits only, so what is left are digits before a line break. -/
theorem readField?_digits {count low high n : Nat} {after : List Char}
    (h : readField? count low high (ds ++ '\n' :: rest) = some (n, after)) :
    after = ds.drop count ++ '\n' :: rest := by
  simp only [readField?] at h
  split at h
  · next hfield =>
      obtain ⟨hlength, hdigits⟩ := hfield
      -- Otherwise the line break would be among the digits.
      have hcount : count ≤ ds.length := by
        refine Nat.le_of_not_lt fun hlt => ?_
        have hmem : '\n' ∈ (ds ++ '\n' :: rest).take count := by
          rw [List.take_append, List.mem_append]
          refine .inr ?_
          obtain ⟨k, hk⟩ : ∃ k, count - ds.length = k + 1 := ⟨count - ds.length - 1, by omega⟩
          rw [hk, List.take_succ_cons]
          exact List.mem_cons_self
        exact absurd (List.all_eq_true.mp hdigits _ hmem) (by decide)
      split at h
      · obtain ⟨-, rfl⟩ := Prod.mk.inj (Option.some.inj h)
        rw [List.drop_append, Nat.sub_eq_zero_of_le hcount, List.drop_zero]
      · cases h
  · cases h

theorem readDate?_digits (hds : ∀ c ∈ ds, c.isDigit = true) : readDate? (ds ++ '\n' :: rest) = none := by
  unfold readDate?
  cases h : readField? 4 0 9999 (ds ++ '\n' :: rest) with
  | none => rfl
  | some field =>
      obtain ⟨year, after⟩ := field
      obtain rfl := readField?_digits h
      simp [dropExact?_digits '-' (by decide) (by decide) [] fun c hc =>
        hds c (List.mem_of_mem_drop hc)]

theorem readTime?_digits (hds : ∀ c ∈ ds, c.isDigit = true) : readTime? (ds ++ '\n' :: rest) = none := by
  unfold readTime?
  cases h : readField? 2 0 23 (ds ++ '\n' :: rest) with
  | none => rfl
  | some field =>
      obtain ⟨hour, after⟩ := field
      obtain rfl := readField?_digits h
      simp [dropExact?_digits ':' (by decide) (by decide) [] fun c hc =>
        hds c (List.mem_of_mem_drop hc)]

theorem readDateTime?_digits (hds : ∀ c ∈ ds, c.isDigit = true) :
    readDateTime? (ds ++ '\n' :: rest) = none := by
  rw [readDateTime?, readDate?_digits hds, readTime?_digits hds]
  rfl

theorem readSign_digits (hds : ∀ c ∈ ds, c.isDigit = true) :
    readSign (ds ++ '\n' :: rest) = (false, ds ++ '\n' :: rest) := by
  cases ds with
  | nil => rfl
  | cons c ds =>
      have hc := hds c List.mem_cons_self
      rw [List.cons_append, readSign.eq_3]
      all_goals
        rintro _ heq
        obtain ⟨rfl, -⟩ := List.cons.inj heq
        exact absurd hc (by decide)

end Digits

/-! ## Numbers -/

theorem fitting?_of_lt {n : Nat} (h : n < 9223372036854775808) : fitting? (n : Int) = some (n : Int) := by
  have hlow : (-9223372036854775808 : Int) ≤ n := by omega
  have hhigh : (n : Int) < 9223372036854775808 := by omega
  simp only [fitting?, hlow, hhigh, and_self, if_true]

section Numbers

variable (n : Nat) (rest : List Char)

theorem readWhole?_digits :
    readWhole? (Decimal.digits n ++ '\n' :: rest) = some (Decimal.digits n, '\n' :: rest) := by
  have hds : ∀ c ∈ Decimal.digits n, c.isDigit = true := fun c hc => Decimal.isDigit_of_mem_digits hc
  obtain hzero | ⟨c, ds, hsplit, hc⟩ := Decimal.digits_front n
  · rw [hzero]
    rfl
  · rw [readWhole?.eq_2, readDigits?_digits (Decimal.digits_ne_nil n) hds]
    intro tail heq
    rw [hsplit] at heq
    exact hc (List.cons.inj heq).1

theorem readDecimal?_digits : readDecimal? (Decimal.digits n ++ '\n' :: rest) = none := by
  unfold readDecimal?
  rw [readSign_digits fun c hc => Decimal.isDigit_of_mem_digits hc]
  simp [readWhole?_digits, readExponent?]

theorem readReal?_digits : readReal? (Decimal.digits n ++ '\n' :: rest) = none := by
  have hds : ∀ c ∈ Decimal.digits n, c.isDigit = true := fun c hc => Decimal.isDigit_of_mem_digits hc
  have hspecial : readSpecial? (Decimal.digits n ++ '\n' :: rest) = none := by
    unfold readSpecial?
    simp only [readSign_digits hds]
    rw [dropExact?_digits _ (by decide) (by decide) _ hds,
      dropExact?_digits _ (by decide) (by decide) _ hds]
  rw [readReal?, readDecimal?_digits, hspecial]
  rfl

/-- A number without a prefix or a sign is the number of its digits. -/
theorem readInteger?_of_whole {s ds after : List Char} {n : Int}
    (hmarks : ∀ mark tail, mark ∈ ['x', 'o', 'b'] → s ≠ '0' :: mark :: tail)
    (hsign : readSign s = (false, s)) (hwhole : readWhole? s = some (ds, after))
    (hfits : fitting? (Decimal.ofDigits ds) = some n) : readInteger? s = some (.integer n, after) := by
  rw [readInteger?.eq_4 s (fun tail => hmarks 'x' tail (by decide))
    (fun tail => hmarks 'o' tail (by decide)) (fun tail => hmarks 'b' tail (by decide))]
  rw [hsign]
  refine Option.bind_eq_some_iff.mpr ⟨(ds, after), hwhole, ?_⟩
  exact Option.bind_eq_some_iff.mpr ⟨n, hfits, rfl⟩

theorem readInteger?_digits (hfits : n < 9223372036854775808) :
    readInteger? (Decimal.digits n ++ '\n' :: rest) = some (.integer n, '\n' :: rest) := by
  refine readInteger?_of_whole ?_
    (readSign_digits fun c hc => Decimal.isDigit_of_mem_digits hc) (readWhole?_digits n rest) ?_
  · intro mark tail hmark heq
    obtain hzero | ⟨c, ds, hsplit, hc⟩ := Decimal.digits_front n
    · rw [hzero] at heq
      obtain rfl := (List.cons.inj (List.cons.inj heq).2).1
      exact absurd hmark (by decide)
    · rw [hsplit] at heq
      exact hc (List.cons.inj heq).1
  · rw [Decimal.ofDigits_digits, fitting?_of_lt hfits]

theorem readNumber?_digits (hfits : n < 9223372036854775808) :
    readNumber? (Decimal.digits n ++ '\n' :: rest) = some (.integer n, '\n' :: rest) := by
  rw [readNumber?, readDateTime?_digits fun c hc => Decimal.isDigit_of_mem_digits hc,
    readReal?_digits, readInteger?_digits n rest hfits]

end Numbers

/-! ## Values -/

/-- The written form of a value: it is read in full before a line break, and no blank is its first
character. -/
structure Written (v : List Char) (x : Node) : Prop where
  front : ∀ c ∈ v.head?, c ≠ ' ' ∧ c ≠ '\t'
  reads : ∀ fuel depth rest, readValue? (fuel + 1) depth (v ++ '\n' :: rest) = some (x, '\n' :: rest)

theorem writeString_eq_cons (s : List Char) :
    ∃ quote more, writeString s = quote :: more ∧ (quote = '\"' ∨ quote = '\'') := by
  unfold writeString
  simp only [between, betweenTripled]
  split
  · exact ⟨_, _, rfl, .inl rfl⟩
  split
  · exact ⟨_, _, rfl, .inr rfl⟩
  split
  · exact ⟨_, _, rfl, .inl rfl⟩
  split
  · exact ⟨_, _, rfl, .inr rfl⟩
  split
  · exact ⟨_, _, rfl, .inl rfl⟩
  · exact ⟨_, _, rfl, .inl rfl⟩

theorem written_string (s : List Char) : Written (writeString s) (.string (String.ofList s)) := by
  obtain ⟨quote, more, hshape, hquote⟩ := writeString_eq_cons s
  constructor
  · rw [hshape]
    rintro c hc
    obtain rfl : quote = c := Option.some.inj hc
    rcases hquote with rfl | rfl <;> decide
  · intro fuel depth rest
    have hread := readString_writeString s ('\n' :: rest) (by simp) (by simp)
    rw [hshape, List.cons_append] at hread ⊢
    have hopens : (decide (quote = '\"') || decide (quote = '\'')) = true := by
      rcases hquote with rfl | rfl <;> rfl
    simp only [readValue?]
    rw [if_pos hopens, hread]
    rfl

theorem written_boolean (b : Bool) :
    Written (if b then ['t', 'r', 'u', 'e'] else ['f', 'a', 'l', 's', 'e']) (.boolean b) := by
  constructor
  · cases b <;> simp
  · intro fuel depth rest
    cases b <;> simp [readValue?, Text.dropExact?]

theorem written_integer {n : Nat} (hfits : n < 9223372036854775808) :
    Written (Decimal.digits n) (.integer n) := by
  have hds : ∀ c ∈ Decimal.digits n, c.isDigit = true := fun c hc => Decimal.isDigit_of_mem_digits hc
  cases hsplit : Decimal.digits n with
  | nil => exact absurd hsplit (Decimal.digits_ne_nil n)
  | cons c ds =>
      have hc : c.isDigit = true := hds c (by rw [hsplit]; exact List.mem_cons_self)
      have hne : ∀ mark, mark.isDigit = false → c ≠ mark := by
        rintro mark hmark rfl
        rw [hc] at hmark
        cases hmark
      constructor
      · rintro d hd
        obtain rfl : c = d := Option.some.inj hd
        exact ⟨hne ' ' (by decide), hne '\t' (by decide)⟩
      · intro fuel depth rest
        have hread := readNumber?_digits n rest hfits
        rw [hsplit, List.cons_append] at hread
        rw [List.cons_append]
        -- No digit is the first character of another kind of value.
        simp only [readValue?, hne '\"' (by decide), hne '\'' (by decide), hne '[' (by decide),
          hne '\x7b' (by decide), hne 't' (by decide), hne 'f' (by decide), hne 'i' (by decide),
          hne 'n' (by decide), decide_false, Bool.or_self, Bool.false_eq_true, if_false]
        exact hread

/-! ## Entries -/

section Entries

variable {key v : List Char} {x : Node}

theorem skipBlanks_eq {s : List Char} (h : ∀ c ∈ s.head?, c ≠ ' ' ∧ c ≠ '\t') : skipBlanks s = s := by
  cases s with
  | nil => rfl
  | cons c s =>
      obtain ⟨hspace, htab⟩ := h c rfl
      simp [skipBlanks, hspace, htab]

theorem ne_of_isBareKey {c mark : Char} (hc : isBareKey c = true) (hmark : isBareKey mark = false) :
    c ≠ mark := by
  rintro rfl
  rw [hc] at hmark
  cases hmark

theorem skipBlanks_bare {c : Char} (hc : isBareKey c = true) (s : List Char) :
    skipBlanks (c :: s) = c :: s := by
  refine skipBlanks_eq fun d hd => ?_
  obtain rfl : c = d := Option.some.inj hd
  exact ⟨ne_of_isBareKey hc (by decide), ne_of_isBareKey hc (by decide)⟩

/-- A key without quotes, and what follows it after blanks. -/
theorem readKey?_bare (hne : key ≠ []) (hkey : ∀ c ∈ key, isBareKey c = true) (rest : List Char) :
    readKey? (key ++ ' ' :: '=' :: rest) = some ([String.ofList key], '=' :: rest) := by
  obtain ⟨c, more, rfl⟩ := List.exists_cons_of_ne_nil hne
  have hc : isBareKey c = true := hkey c List.mem_cons_self
  have hbare : ∀ mark, isBareKey mark = false → c ≠ mark := fun _ => ne_of_isBareKey hc
  have hblanks : skipBlanks (c :: more ++ ' ' :: '=' :: rest) = c :: more ++ ' ' :: '=' :: rest :=
    skipBlanks_bare hc _
  have hname : readName? (c :: more ++ ' ' :: '=' :: rest) =
      some (String.ofList (c :: more), ' ' :: '=' :: rest) := by
    have htake : (c :: more ++ ' ' :: '=' :: rest).takeWhile isBareKey = c :: more := by
      rw [List.takeWhile_append_of_pos hkey]
      simp [isBareKey]
    have hdrop : (c :: more ++ ' ' :: '=' :: rest).dropWhile isBareKey = ' ' :: '=' :: rest := by
      rw [List.dropWhile_append_of_pos hkey]
      simp [isBareKey]
    rw [readName?.eq_3]
    · simp only [htake, hdrop]
      rfl
    · exact fun tail heq => hbare '\"' (by decide) (List.cons.inj heq).1
    · exact fun tail heq => hbare '\'' (by decide) (List.cons.inj heq).1
  unfold readKey?
  rw [readNames?, hblanks, hname]
  rfl

/-- An entry on a line of its own. -/
theorem readEntry?_line (hne : key ≠ []) (hkey : ∀ c ∈ key, isBareKey c = true) (hv : Written v x)
    (rest : List Char) :
    readEntry? (key ++ ' ' :: '=' :: ' ' :: (v ++ '\n' :: rest)) =
      some ([String.ofList key], x, rest) := by
  have hblanks : skipBlanks (' ' :: (v ++ '\n' :: rest)) = v ++ '\n' :: rest := by
    refine (List.dropWhile_cons_of_pos (by rfl)).trans (skipBlanks_eq fun c hc => ?_)
    cases v with
    | nil =>
        obtain rfl : '\n' = c := Option.some.inj hc
        decide
    | cons d v => exact hv.front c hc
  unfold readEntry?
  rw [readKey?_bare hne hkey]
  simp only [Option.bind_eq_bind, Option.bind_some, Text.dropExact?, if_true, hblanks]
  rw [hv.reads]
  rfl

theorem Entries.insert_new {name : String} (x : Node) {root : Entries} (hnew : root.get? name = none) :
    root.atPath (Entries.insert [name] x) [] = some (root.add name x) := by
  simp [Entries.atPath, Entries.insert, Entries.insertDotted, hnew]

/-- A line with a new key adds its entry to the root, as long as no header has opened another table. -/
theorem readStatements?_line (hne : key ≠ []) (hkey : ∀ c ∈ key, isBareKey c = true)
    (hv : Written v x) {root : Entries} (hnew : root.get? (String.ofList key) = none) (fuel : Nat)
    (rest : List Char) :
    readStatements? (fuel + 1) root [] (key ++ ' ' :: '=' :: ' ' :: (v ++ '\n' :: rest)) =
      readStatements? fuel (root.add (String.ofList key) x) [] rest := by
  have hentry := readEntry?_line hne hkey hv rest
  obtain ⟨c, more, rfl⟩ := List.exists_cons_of_ne_nil hne
  have hc : isBareKey c = true := hkey c List.mem_cons_self
  have hbare : ∀ mark, isBareKey mark = false → c ≠ mark := fun _ => ne_of_isBareKey hc
  have hblanks : skipBlanks (c :: (more ++ ' ' :: '=' :: ' ' :: (v ++ '\n' :: rest))) =
      c :: (more ++ ' ' :: '=' :: ' ' :: (v ++ '\n' :: rest)) := skipBlanks_bare hc _
  rw [List.cons_append] at hentry ⊢
  rw [readStatements?, hblanks]
  split
  · next heq => cases heq
  · next heq => exact absurd (List.cons.inj heq).1 (hbare '[' (by decide))
  · next heq => exact absurd (List.cons.inj heq).1 (hbare '[' (by decide))
  · next heq =>
      obtain ⟨rfl, rfl⟩ := List.cons.inj heq
      rw [if_neg (by simp [hbare '#' (by decide), hbare '\n' (by decide), hbare '\r' (by decide)]),
        hentry]
      simp only [Option.bind_eq_bind, Option.bind_some, Entries.insert_new x hnew]

end Entries

/-- A text that does not begin with a byte order mark is read as it stands. -/
theorem read?_of_head? {s : List Char} (h : s.head? ≠ some '\uFEFF') :
    read? s = readStatements? (s.length + 1) [] [] s := by
  unfold read?
  split
  · exact absurd rfl h
  · rfl

end OpenSql.Toml
