/-
# OpenSql.Proofs.Dialect.Plain — the clauses that are SQL already.

Without key columns every step of the translation either finds nothing and leaves the text, or makes it
smaller.  A step behind it can therefore not bring back what a step has taken away, and the translation
gives the clause back exactly when no step finds anything in the clause itself.  Sizes are counted in
characters and in bytes alike: all that the steps take away or put in is ASCII.
-/
import OpenSql.Proofs.Dialect.KeyOrder
import OpenSql.Proofs.Dialect.Leftovers

namespace OpenSql.Dialect

open Text (lower dropWord? Holds)

/-! ## Sizes -/

/-- A text of ASCII characters. -/
def Ascii (s : List Char) : Prop := ∀ c ∈ s, c.toNat < 128

instance (s : List Char) : Decidable (Ascii s) :=
  decidable_of_iff (s.all (·.toNat < 128)) (by simp [Ascii])

/-- A weight for the characters of a text in which ASCII characters count one each. -/
structure Measure where
  weight : Char → Nat
  ascii : ∀ c, c.toNat < 128 → weight c = 1

namespace Measure

variable {m : Measure} {s t v : List Char}

/-- The weight of a whole text. -/
def size (m : Measure) : List Char → Nat
  | [] => 0
  | c :: s => m.weight c + m.size s

/-- The number of characters. -/
def characters : Measure := ⟨fun _ => 1, fun _ _ => rfl⟩

/-- The number of bytes. -/
def bytes : Measure where
  weight := Char.utf8Size
  ascii c hc := by
    have hval : c.val ≤ 0x7f := by
      show c.toNat ≤ 127
      omega
    simp [Char.utf8Size, hval]

theorem size_cons (c : Char) (s : List Char) : m.size (c :: s) = m.weight c + m.size s := rfl

@[simp]
theorem size_append (s t : List Char) : m.size (s ++ t) = m.size s + m.size t := by
  induction s with
  | nil => simp [size]
  | cons c s ih =>
      rw [List.cons_append, size_cons, size_cons, ih]
      omega

theorem size_characters (s : String) : characters.size s.toList = s.length := by
  have hsize (s : List Char) : characters.size s = s.length := by
    induction s with
    | nil => rfl
    | cons c s ih =>
        rw [size_cons, ih, List.length_cons]
        exact Nat.add_comm 1 _
  rw [hsize, String.length_toList]

theorem size_bytes (s : String) : bytes.size s.toList = s.utf8ByteSize := by
  have hsize (s : List Char) : bytes.size s = (s.flatMap String.utf8EncodeChar).length := by
    induction s with
    | nil => rfl
    | cons c s ih =>
        rw [size_cons, ih, List.flatMap_cons, List.length_append, String.length_utf8EncodeChar]
        rfl
  rw [hsize, String.utf8ByteSize, ← String.utf8Encode_toList, List.utf8Encode,
    List.size_toByteArray]

theorem size_of_ascii (hs : Ascii s) : m.size s = s.length := by
  induction s with
  | nil => rfl
  | cons c s ih =>
      obtain ⟨hc, hrest⟩ := List.forall_mem_cons.mp hs
      rw [size_cons, m.ascii c hc, ih hrest, List.length_cons, Nat.add_comm]

/-- A word of ASCII letters has one size, whatever the case of its letters. -/
theorem size_of_lower {word : List Char} (hword : Ascii word) (hv : lower v = word) :
    m.size v = word.length := by
  have hascii : Ascii v := by
    intro c hc
    have hlower : c.toLower.toNat < 128 := hword _ (hv ▸ List.mem_map_of_mem hc)
    rcases Text.toLower_cases c with hsame | ⟨hlow, hhigh, hcapital⟩
    · rwa [hsame] at hlower
    · omega
  rw [size_of_ascii hascii, ← hv, lower, List.length_map]

end Measure

/-! ## Steps that make a text smaller -/

/-- A step that leaves a text in which it finds nothing, and makes any other one smaller. -/
structure Shrinks (m : Measure) (found : List Char → Prop) (step : List Char → List Char) : Prop where
  same : ∀ s, ¬ found s → step s = s
  less : ∀ s, found s → m.size (step s) < m.size s

namespace Shrinks

variable {m : Measure} {found found' : List Char → Prop} {step next : List Char → List Char}

theorem size_le (h : Shrinks m found step) (s : List Char) : m.size (step s) ≤ m.size s := by
  by_cases hs : found s
  · exact (h.less s hs).le
  · rw [h.same s hs]

/-- No step brings back what one before it has taken away. -/
theorem andThen (h : Shrinks m found step) (hnext : Shrinks m found' next) :
    Shrinks m (fun s => found s ∨ found' s) (fun s => next (step s)) where
  same s hs := by
    obtain ⟨hfirst, hsecond⟩ := not_or.mp hs
    rw [h.same s hfirst, hnext.same s hsecond]
  less s hs := by
    by_cases hfirst : found s
    · calc m.size (next (step s)) ≤ m.size (step s) := hnext.size_le _
        _ < m.size s := h.less s hfirst
    · rw [h.same s hfirst]
      exact hnext.less s (hs.resolve_left hfirst)

end Shrinks

variable {m : Measure}

/-- A limit loses two words and gets one. -/
theorem shrinks_hoistRowLimit : Shrinks m HasRowLimit hoistRowLimit where
  same _ := hoistRowLimit_of_not_hasRowLimit
  less s hs := by
    obtain ⟨before, limit, digits, line, rest, hfirst⟩ := exists_firstLimit hs
    obtain ⟨head, tail, hlimit, hhead, htail, -, -⟩ := hfirst.isLimit
    have hheadSize : m.size head = 7 := Measure.size_of_lower (by decide) hhead
    have htailSize : m.size tail = 5 := Measure.size_of_lower (by decide) htail
    have hwordSize : m.size limitWord = 7 := Measure.size_of_ascii (by decide)
    rw [hfirst.hoistRowLimit_eq, hfirst.split, hlimit]
    simp only [Measure.size_append]
    omega

theorem shrinks_dropKeyOrder : Shrinks m HasKeyOrder (expandKeyOrder []) where
  same _ hs := expandKeyOrder_of_not_hasKeyOrder hs []
  less s hs := by
    show m.size (replaceKeyOrder [] s) < m.size s
    induction s with
    | nil => exact absurd hs (by decide)
    | cons c s ih =>
        rw [replaceKeyOrder_cons]
        cases hfound : dropWord? keyOrderClause (c :: s) with
        | some rest =>
            obtain ⟨clause, hsplit, hclause⟩ := Text.dropWord?_eq_some_iff.mp hfound
            have hsize : m.size clause = 21 := Measure.size_of_lower (by decide) hclause
            rw [hsplit]
            show m.size rest < _
            rw [Measure.size_append]
            omega
        | none =>
            have hrest : HasKeyOrder s := (Text.holds_cons.mp hs).resolve_left (by simp [hfound])
            have hless := ih hrest
            simp only [Measure.size_cons]
            omega

theorem shrinks_replaceEvery {word replacement : List Char} (hword : Ascii word)
    (hreplacement : Ascii replacement) (hshort : replacement.length < word.length) :
    Shrinks m (Holds word) (replaceEvery word replacement) := by
  have hne : word ≠ [] := List.ne_nil_of_length_pos (by omega)
  refine ⟨fun s hs => replaceEvery_of_not_holds hne hs, ?_⟩
  intro s hs
  induction hlength : s.length using Nat.strong_induction_on generalizing s with
  | _ n ih =>
    subst hlength
    cases s with
    | nil =>
        obtain ⟨v, hv, hin⟩ := Text.holds_iff.mp hs
        rw [List.infix_nil.mp hin] at hv
        exact absurd hv.symm hne
    | cons c s =>
        rw [replaceEvery_cons hne]
        cases hfound : dropWord? word (c :: s) with
        | some rest =>
            obtain ⟨v, hsplit, hv⟩ := Text.dropWord?_eq_some_iff.mp hfound
            have hsize : m.size v = word.length := Measure.size_of_lower hword hv
            have hsize' : m.size replacement = replacement.length := Measure.size_of_ascii hreplacement
            have hrest : m.size (replaceEvery word replacement rest) ≤ m.size rest := by
              by_cases h : Holds word rest
              · exact (ih rest.length (Text.length_lt_of_dropWord? hfound hne) rest h rfl).le
              · rw [replaceEvery_of_not_holds hne h]
            rw [hsplit]
            show m.size (replacement ++ replaceEvery word replacement rest) < _
            rw [Measure.size_append, Measure.size_append]
            omega
        | none =>
            have hrest : Holds word s := (Text.holds_cons.mp hs).resolve_left (by simp [hfound])
            have hless := ih s.length (Nat.lt_succ_self _) s hrest rfl
            simp only [Measure.size_cons]
            omega

/-- The steps before the last one.  Each of them is looked for in the clause, not in what the others make
of it. -/
theorem shrinks_steps : Shrinks m
    (fun s => ((HasRowLimit s ∨ HasKeyOrder s) ∨ Holds ascendingWord s) ∨ Holds descendingWord s)
    (fun s => shortenDirections (expandKeyOrder [] (hoistRowLimit s))) :=
  ((shrinks_hoistRowLimit.andThen shrinks_dropKeyOrder).andThen
    (shrinks_replaceEvery (by decide) (by decide) (by decide))).andThen
      (shrinks_replaceEvery (by decide) (by decide) (by decide))

/-! ## The component selector -/

theorem selector_not_mem_qualify (s : List Char) : '~' ∉ qualify s := by
  intro hmem
  obtain ⟨c, -, hc⟩ := List.mem_map.mp hmem
  split at hc
  · cases hc
  · next hother => exact hother hc

theorem size_qualify (s : List Char) : m.size (qualify s) = m.size s := by
  have hpoint : m.weight '.' = m.weight '~' := by
    rw [m.ascii '.' (by decide), m.ascii '~' (by decide)]
  induction s with
  | nil => rfl
  | cons c s ih =>
      show m.size ((if c = '~' then '.' else c) :: qualify s) = _
      rw [Measure.size_cons, Measure.size_cons, ih]
      split
      · next hc => rw [hc, hpoint]
      · rfl

/-! ## Plain clauses -/

/-- Nothing in the text is of the dialect alone, whatever the case of its letters. -/
structure Plain (s : List Char) : Prop where
  limit : ∀ limit digits, IsRowLimit limit digits → ¬ limit <:+: s
  order : ∀ v, lower v = " order by primary key".toList → ¬ v <:+: s
  ascending : ∀ v, lower v = " ascending".toList → ¬ v <:+: s
  descending : ∀ v, lower v = " descending".toList → ¬ v <:+: s
  selector : '~' ∉ s

theorem plain_iff {s : List Char} :
    Plain s ↔
      ¬ (((HasRowLimit s ∨ HasKeyOrder s) ∨ Holds ascendingWord s) ∨ Holds descendingWord s) ∧
        '~' ∉ s := by
  simp only [not_or]
  constructor
  · intro h
    exact ⟨⟨⟨⟨not_hasRowLimit_iff.mpr h.limit, not_hasKeyOrder_iff.mpr h.order⟩,
      Text.not_holds_iff.mpr h.ascending⟩, Text.not_holds_iff.mpr h.descending⟩, h.selector⟩
  · rintro ⟨⟨⟨⟨hlimit, horder⟩, hascending⟩, hdescending⟩, hselector⟩
    exact ⟨not_hasRowLimit_iff.mp hlimit, not_hasKeyOrder_iff.mp horder,
      Text.not_holds_iff.mp hascending, Text.not_holds_iff.mp hdescending, hselector⟩

instance (s : List Char) : Decidable (Plain s) := decidable_of_iff _ plain_iff.symm

theorem size_selectChars_le (s : List Char) : m.size (selectChars [] s) ≤ m.size s := by
  rw [selectChars, size_qualify]
  exact shrinks_steps.size_le s

theorem selectChars_eq_self_iff {s : List Char} : selectChars [] s = s ↔ Plain s := by
  have hsteps := shrinks_steps (m := Measure.characters)
  rw [plain_iff]
  constructor
  · intro hsame
    refine ⟨fun hfound => ?_, ?_⟩
    · -- What has become smaller is another text, and the last step keeps the size.
      have hless := hsteps.less s hfound
      rw [← size_qualify] at hless
      exact absurd (congrArg Measure.characters.size hsame) hless.ne
    · rw [← hsame]
      exact selector_not_mem_qualify _
  · rintro ⟨hnone, hselector⟩
    rw [selectChars, hsteps.same s hnone, qualify_of_not_mem hselector]

/-- Without key columns a clause does not become longer, in characters or in bytes, and no component
selector is left in it; and it is left as it is exactly when nothing in it is of the dialect alone. -/
theorem unchanged_iff_plain (select : String) {primaryKey : Option (List String)}
    (hkeys : primaryKey = none ∨ primaryKey = some []) :
    let sql := selectSql select primaryKey
    sql.length ≤ select.length ∧ sql.utf8ByteSize ≤ select.utf8ByteSize ∧ '~' ∉ sql.toList ∧
      (sql = select ↔ Plain select.toList) := by
  intro sql
  have hsql : sql.toList = selectChars [] select.toList := by
    rcases hkeys with rfl | rfl
    · exact String.toList_ofList
    · exact String.toList_ofList
  refine ⟨?_, ?_, ?_, ?_⟩
  · rw [← Measure.size_characters, ← Measure.size_characters, hsql]
    exact size_selectChars_le _
  · rw [← Measure.size_bytes, ← Measure.size_bytes, hsql]
    exact size_selectChars_le _
  · rw [hsql]
    exact selector_not_mem_qualify _
  · rw [← String.toList_inj, hsql]
    exact selectChars_eq_self_iff

theorem unchanged_iff_plain_near_misses :
    let text := "select up to 5 row from t order by primary  key,ascending, b descendin"
    Plain text.toList ∧ selectSql text (some []) = text := by
  intro text
  have hplain : Plain text.toList := by decide
  obtain ⟨-, -, -, hunchanged⟩ := unchanged_iff_plain text (.inr rfl)
  exact ⟨hplain, hunchanged.mpr hplain⟩

end OpenSql.Dialect
