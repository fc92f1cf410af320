/-
# OpenSql.Proofs.Toml.Quoting — every text is read back from its written form.

The writer chooses among the forms by looking at the whole text, and each form has a reader of its own.
What ties the two together is that a reader passes over what the writer puts for one character and gives
that character.  Quotes are the exception: whether one of them closes depends on how many stand in a row.
So the tripled forms are followed with the quotes in hand that stand directly before, of which there are
never more than two.
-/
import OpenSql.Toml.Quoting

namespace OpenSql.Toml

/-! ## Characters -/

theorem toNat_lt_of_isControl {c : Char} (h : isControl c = true) : c.toNat < 128 := by
  simp only [isControl, Bool.or_eq_true, Bool.and_eq_true, decide_eq_true_eq, beq_iff_eq] at h
  omega

/-- The number in an escape is the character's. -/
theorem numbered?_of_isControl {c : Char} (h : isControl c = true) :
    numbered? ['0', '0', Text.hexDigitUpper (c.toNat / 16), Text.hexDigitUpper (c.toNat % 16)] =
      some c := by
  have hall : ∀ n < 128, numbered? ['0', '0', Text.hexDigitUpper (n / 16),
      Text.hexDigitUpper (n % 16)] = some (Char.ofNat n) := by decide
  rw [hall c.toNat (toNat_lt_of_isControl h), Char.ofNat_toNat]

/-- A character has an escape of a letter that stands for it, or one of its number, or none; and then
it is no backslash, and no control character but the line break. -/
theorem escape?_cases (c : Char) :
    (∃ letter, escape? c = some ['\\', letter] ∧ unescape? letter = some c) ∨
      (∃ x y, escape? c = some ['\\', 'u', '0', '0', x, y] ∧
        numbered? ['0', '0', x, y] = some c) ∨
      (escape? c = none ∧ c ≠ '\\' ∧ (c ≠ '\n' → isControl c = false)) := by
  unfold escape?
  split
  · next hc => exact .inl ⟨'b', rfl, by rw [hc]; rfl⟩
  split
  · next hc => exact .inl ⟨'t', rfl, by rw [hc]; rfl⟩
  split
  · next hc => exact .inl ⟨'f', rfl, by rw [hc]; rfl⟩
  split
  · next hc => exact .inl ⟨'r', rfl, by rw [hc]; rfl⟩
  split
  · next hc => exact .inl ⟨'\\', rfl, by rw [hc]; rfl⟩
  next hbackslash =>
  split
  · next hc =>
      simp only [Bool.and_eq_true] at hc
      exact .inr (.inl ⟨_, _, rfl, numbered?_of_isControl hc.1⟩)
  · next hc =>
      refine .inr (.inr ⟨rfl, hbackslash, fun hbreak => ?_⟩)
      simpa [hbreak] using hc

theorem mem_of_unescape? {letter c : Char} (h : unescape? letter = some c) :
    letter ∈ ['b', 't', 'n', 'f', 'r', '\"', '\\'] := by
  refine Decidable.byContradiction fun hmem => ?_
  simp only [List.mem_cons, List.not_mem_nil, or_false, not_or] at hmem
  simp [unescape?, hmem] at h

/-! ## Between double quotes -/

theorem readLine_plain {c : Char} {rest : List Char} (hquote : c ≠ '\"') (hbackslash : c ≠ '\\')
    (hcontrol : isControl c = false) : readLine (c :: rest) = (readLine rest).cons c := by
  rw [readLine.eq_def]
  split <;> simp_all

theorem readLine_letter {letter c : Char} (h : unescape? letter = some c) (rest : List Char) :
    readLine ('\\' :: letter :: rest) = (readLine rest).cons c := by
  have hmem := mem_of_unescape? h
  simp only [List.mem_cons, List.not_mem_nil, or_false] at hmem
  rcases hmem with rfl | rfl | rfl | rfl | rfl | rfl | rfl <;> simp [readLine, h]

theorem readLine_number {x y c : Char} (h : numbered? ['0', '0', x, y] = some c) (rest : List Char) :
    readLine ('\\' :: 'u' :: '0' :: '0' :: x :: y :: rest) = (readLine rest).cons c := by
  simp [readLine, h]

/-- What is written for one character is read as that character. -/
theorem readLine_escape {c : Char} (hquote : c ≠ '\"') (hbreak : c ≠ '\n') (rest : List Char) :
    readLine ((escape? c).getD [c] ++ rest) = (readLine rest).cons c := by
  obtain ⟨letter, he, hletter⟩ | ⟨x, y, he, hnumber⟩ | ⟨he, hbackslash, hcontrol⟩ := escape?_cases c
  · simpa [he] using readLine_letter hletter rest
  · simpa [he] using readLine_number hnumber rest
  · simpa [he] using readLine_plain hquote hbackslash (hcontrol hbreak)

theorem readLine_escapeLine (s rest : List Char) :
    readLine (escapeLine s ++ '\"' :: rest) = some (s, rest) := by
  induction s with
  | nil => simp [escapeLine, readLine]
  | cons c s ih =>
      unfold escapeLine
      split
      · next hc => rw [hc, List.cons_append, List.cons_append, readLine_letter rfl, ih]; rfl
      split
      · next hc => rw [hc, List.cons_append, List.cons_append, readLine_letter rfl, ih]; rfl
      · next hquote hbreak =>
          rw [List.append_assoc, readLine_escape hquote hbreak, ih]
          rfl

/-! ## Between single quotes -/

theorem readRawLine_append {s : List Char} (hquote : ∀ c ∈ s, c ≠ '\'')
    (hcontrol : ∀ c ∈ s, isControl c = false) (rest : List Char) :
    readRawLine (s ++ '\'' :: rest) = some (s, rest) := by
  induction s with
  | nil => simp [readRawLine]
  | cons c s ih =>
      have hs := ih (fun d hd => hquote d (List.mem_cons_of_mem c hd))
        (fun d hd => hcontrol d (List.mem_cons_of_mem c hd))
      rw [List.cons_append, readRawLine, if_neg (hquote c List.mem_cons_self),
        if_neg (by simp [hcontrol c List.mem_cons_self]), hs]
      rfl

/-! ## Quotes in a row -/

/-- A reader of tripled quotes, as far as it deals with quotes: three of them close, and one that does
not begin three is read as it is. -/
structure Triples (quote : Char) (reader : List Char → Read) : Prop where
  closes : ∀ rest, reader (quote :: quote :: quote :: rest) = some (closing quote rest)
  passes : ∀ c rest, (c = quote → rest.head? ≠ some quote) →
    reader (quote :: c :: rest) = (reader (c :: rest)).cons quote

namespace Triples

variable {quote : Char} {reader : List Char → Read}

/-- Up to two quotes before another character are read as they are. -/
theorem through (h : Triples quote reader) {n : Nat} (hn : n ≤ 2) {c : Char} (hc : c ≠ quote)
    {rest s after : List Char} (hread : reader (c :: rest) = some (s, after)) :
    reader (List.replicate n quote ++ c :: rest) = some (List.replicate n quote ++ s, after) := by
  have hone : reader (quote :: c :: rest) = some (quote :: s, after) := by
    rw [h.passes c rest fun heq => absurd heq hc, hread]
    rfl
  obtain rfl | rfl | rfl : n = 0 ∨ n = 1 ∨ n = 2 := by omega
  · exact hread
  · exact hone
  · show reader (quote :: quote :: c :: rest) = _
    rw [h.passes quote (c :: rest) fun _ => by simpa using hc, hone]
    rfl

/-- Up to two quotes before the closing ones belong to the text. -/
theorem atEnd (h : Triples quote reader) {n : Nat} (hn : n ≤ 2) {rest : List Char}
    (hrest : rest.head? ≠ some quote) :
    reader (List.replicate n quote ++ quote :: quote :: quote :: rest) =
      some (List.replicate n quote, rest) := by
  have hclose : closing quote (List.replicate n quote ++ rest) = (List.replicate n quote, rest) := by
    obtain rfl | rfl | rfl : n = 0 ∨ n = 1 ∨ n = 2 := by omega
    all_goals rcases rest with _ | ⟨a, _ | ⟨b, rest⟩⟩ <;> simp_all [closing, List.replicate]
  have hshift : List.replicate n quote ++ quote :: quote :: quote :: rest =
      quote :: quote :: quote :: (List.replicate n quote ++ rest) := by
    obtain rfl | rfl | rfl : n = 0 ∨ n = 1 ∨ n = 2 := by omega
    all_goals rfl
  rw [hshift, h.closes, hclose]

end Triples

/-! ## Between tripled double quotes -/

theorem readLines_plain {c : Char} {rest : List Char}
    (hquotes : c = '\"' → ∀ tail, rest ≠ '\"' :: '\"' :: tail) (hbackslash : c ≠ '\\')
    (hcontrol : c ≠ '\n' → isControl c = false) :
    readLines false (c :: rest) = (readLines false rest).cons c := by
  have hreturn : c ≠ '\r' := by
    rintro rfl
    exact absurd (hcontrol (by decide)) (by decide)
  rw [readLines.eq_7 false c rest (fun tail hc => hquotes hc tail) (fun _ hc => absurd hc hreturn)
    (by simp [hbackslash]) (by simp [hbackslash]) (fun _ _ hc => absurd hc hbackslash)]
  by_cases hbreak : c = '\n'
  · simp [hbreak]
  · simp [hbreak, hbackslash, hcontrol hbreak]

theorem readLines_letter {letter c : Char} (h : unescape? letter = some c) (rest : List Char) :
    readLines false ('\\' :: letter :: rest) = (readLines false rest).cons c := by
  have hmem := mem_of_unescape? h
  simp only [List.mem_cons, List.not_mem_nil, or_false] at hmem
  rcases hmem with rfl | rfl | rfl | rfl | rfl | rfl | rfl <;> simp [readLines, breaksLine, h]

theorem readLines_number {x y c : Char} (h : numbered? ['0', '0', x, y] = some c)
    (rest : List Char) :
    readLines false ('\\' :: 'u' :: '0' :: '0' :: x :: y :: rest) = (readLines false rest).cons c := by
  simp [readLines, h]

/-- What is written for one character is read as that character. -/
theorem readLines_escape {c : Char} (hquote : c ≠ '\"') (rest : List Char) :
    readLines false ((escape? c).getD [c] ++ rest) = (readLines false rest).cons c := by
  obtain ⟨letter, he, hletter⟩ | ⟨x, y, he, hnumber⟩ | ⟨he, hbackslash, hcontrol⟩ := escape?_cases c
  · simpa [he] using readLines_letter hletter rest
  · simpa [he] using readLines_number hnumber rest
  · simpa [he] using readLines_plain (fun hc => absurd hc hquote) hbackslash hcontrol

theorem triples_readLines : Triples '\"' (readLines false) where
  closes rest := by simp [readLines]
  passes c rest hc := by
    refine readLines_plain (fun _ tail heq => ?_) (by decide) fun _ => by decide
    obtain ⟨rfl, rfl⟩ := List.cons.inj heq
    exact hc rfl rfl

/-- What is written for a character other than a quote begins with no quote, and with a line break or a
carriage return only if it is a line break. -/
theorem escape_eq_cons {c : Char} (hquote : c ≠ '\"') :
    ∃ first more, (escape? c).getD [c] = first :: more ∧ first ≠ '\"' ∧
      (c ≠ '\n' → first ≠ '\n' ∧ first ≠ '\r') := by
  obtain ⟨letter, he, -⟩ | ⟨x, y, he, -⟩ | ⟨he, -, hcontrol⟩ := escape?_cases c
  · exact ⟨_, _, by rw [he]; rfl, by decide, fun _ => by decide⟩
  · exact ⟨_, _, by rw [he]; rfl, by decide, fun _ => by decide⟩
  · refine ⟨c, [], by rw [he]; rfl, hquote, fun hbreak => ⟨hbreak, ?_⟩⟩
    rintro rfl
    exact absurd (hcontrol hbreak) (by decide)

/-- The quotes that stand directly before the text are read along with it. -/
theorem readLines_escapeLines {n : Nat} (hn : n ≤ 2) (s : List Char) {rest : List Char}
    (hrest : rest.head? ≠ some '\"') :
    readLines false
        (List.replicate n '\"' ++ (escapeLines n s ++ '\"' :: '\"' :: '\"' :: rest)) =
      some (List.replicate n '\"' ++ s, rest) := by
  induction s generalizing n with
  | nil => simpa [escapeLines] using triples_readLines.atEnd hn hrest
  | cons c s ih =>
      unfold escapeLines
      split
      · next hc =>
        subst hc
        split
        · next hlt =>
            -- One more quote in the row.
            have hnext := ih (n := n + 1) (by omega)
            rw [List.replicate_succ'] at hnext
            simpa using hnext
        · -- The third in a row is escaped, and a new row begins.
          have hquote : unescape? '\"' = some '\"' := rfl
          have hletter := (readLines_letter hquote _).trans
            (congrArg (Read.cons '\"') (ih (n := 0) (by omega)))
          exact triples_readLines.through hn (by decide) hletter
      · next hquote =>
        obtain ⟨first, more, heq, hfirst, -⟩ := escape_eq_cons hquote
        have hread := (readLines_escape hquote _).trans
          (congrArg (Read.cons c) (ih (n := 0) (by omega)))
        rw [heq] at hread ⊢
        rw [List.append_assoc]
        exact triples_readLines.through hn hfirst hread

/-! ## Between tripled single quotes -/

theorem readRawLines_plain {c : Char} {rest : List Char}
    (hquotes : c = '\'' → ∀ tail, rest ≠ '\'' :: '\'' :: tail)
    (hcontrol : c ≠ '\n' → isControl c = false) :
    readRawLines (c :: rest) = (readRawLines rest).cons c := by
  have hreturn : c ≠ '\r' := by
    rintro rfl
    exact absurd (hcontrol (by decide)) (by decide)
  rw [readRawLines.eq_4 c rest (fun tail hc => hquotes hc tail) (fun _ hc => absurd hc hreturn)]
  by_cases hbreak : c = '\n'
  · simp [hbreak]
  · simp [hbreak, hcontrol hbreak]

theorem triples_readRawLines : Triples '\'' readRawLines where
  closes rest := by simp [readRawLines]
  passes c rest hc := by
    refine readRawLines_plain (fun _ tail heq => ?_) fun _ => by decide
    obtain ⟨rfl, rfl⟩ := List.cons.inj heq
    exact hc rfl rfl

/-- One step in looking for the longest stretch: the longest so far, and the one at hand. -/
def stretch (x : Char) (lengths : Nat × Nat) (c : Char) : Nat × Nat :=
  let current := if c = x then lengths.2 + 1 else 0
  (max lengths.1 current, current)

theorem longestRun_eq (x : Char) (s : List Char) :
    longestRun x s = (s.foldl (stretch x) (0, 0)).1 := rfl

theorem le_foldl_stretch (x : Char) (s : List Char) (lengths : Nat × Nat) :
    lengths.1 ≤ (s.foldl (stretch x) lengths).1 := by
  induction s generalizing lengths with
  | nil => exact Nat.le_refl _
  | cons c s ih =>
      have hstep : lengths.1 ≤ (stretch x lengths c).1 := Nat.le_max_left _ _
      exact Nat.le_trans hstep (ih _)

/-- A character without a stretch does not occur. -/
theorem ne_of_longestRun_eq_zero {x : Char} {s : List Char} (h : longestRun x s = 0) :
    ∀ c ∈ s, c ≠ x := by
  rw [longestRun_eq] at h
  induction s with
  | nil => simp
  | cons c s ih =>
      have hc : c ≠ x := by
        rintro rfl
        have hle := le_foldl_stretch c s (stretch c (0, 0) c)
        simp only [List.foldl_cons] at h
        simp [stretch] at hle h
        omega
      have hs : (s.foldl (stretch x) (0, 0)).1 = 0 := by simpa [stretch, hc] using h
      exact List.forall_mem_cons.mpr ⟨hc, ih hs⟩

theorem readRawLines_append {n best : Nat} (hn : n ≤ 2) {s : List Char}
    (hlongest : (s.foldl (stretch '\'') (best, n)).1 ≤ 2)
    (hcontrol : ∀ c ∈ s, c ≠ '\n' → isControl c = false) {rest : List Char}
    (hrest : rest.head? ≠ some '\'') :
    readRawLines (List.replicate n '\'' ++ (s ++ '\'' :: '\'' :: '\'' :: rest)) =
      some (List.replicate n '\'' ++ s, rest) := by
  induction s generalizing n best with
  | nil => simpa using triples_readRawLines.atEnd hn hrest
  | cons c s ih =>
      rw [List.foldl_cons] at hlongest
      have hle := Nat.le_trans (le_foldl_stretch '\'' s _) hlongest
      have hs := fun d hd => hcontrol d (List.mem_cons_of_mem c hd)
      by_cases hc : c = '\''
      · -- One more quote in the row, and the row is not longer than the longest.
        subst hc
        have hnext := ih (n := n + 1) (Nat.le_trans (Nat.le_max_right _ _) hle) hlongest hs
        rw [List.replicate_succ'] at hnext
        simpa using hnext
      · have hread := (readRawLines_plain (fun h => absurd h hc)
          (hcontrol c List.mem_cons_self)).trans
          (congrArg (Read.cons c) (ih (n := 0) (by omega) (by simpa [stretch, hc] using hlongest) hs))
        exact triples_readRawLines.through hn hc hread

/-! ## Written forms -/

/-- A quote opens a line unless two more follow. -/
theorem readString_ofLine {inside : List Char} (h : ∀ tail, inside ≠ '\"' :: '\"' :: tail) :
    readString ('\"' :: inside) = readLine inside :=
  readString.eq_2 inside h

theorem readString_ofRawLine {inside : List Char} (h : ∀ tail, inside ≠ '\'' :: '\'' :: tail) :
    readString ('\'' :: inside) = readRawLine inside :=
  readString.eq_4 inside h

theorem betweenTripled_append (quote : Char) (hasBreak : Bool) (inside rest : List Char) :
    betweenTripled quote hasBreak inside ++ rest =
      quote :: quote :: quote :: (if hasBreak then '\n' :: (inside ++ quote :: quote :: quote :: rest)
        else inside ++ quote :: quote :: quote :: rest) := by
  cases hasBreak <;> simp [betweenTripled, between]

/-- The line break that the writer puts in front is the one that the reader passes over. -/
theorem skipBreak_broken {hasBreak : Bool} {inside : List Char}
    (h : hasBreak = false → ∀ c ∈ inside.head?, c ≠ '\n' ∧ c ≠ '\r') :
    skipBreak (if hasBreak then '\n' :: inside else inside) = inside := by
  cases hasBreak with
  | true => rfl
  | false =>
      cases inside with
      | nil => rfl
      | cons c inside =>
          obtain ⟨hbreak, hreturn⟩ := h rfl c rfl
          simp only [Bool.false_eq_true, if_false]
          rw [skipBreak.eq_3 _ (by simp [hbreak]) (by simp [hreturn])]

theorem readString_escapeLine (s : List Char) {rest : List Char} (hrest : rest.head? ≠ some '\"') :
    readString (between ['\"'] (escapeLine s) ++ rest) = some (s, rest) := by
  have hopen : ∀ tail, escapeLine s ++ '\"' :: rest ≠ '\"' :: '\"' :: tail := by
    intro tail heq
    cases s with
    | nil =>
        obtain ⟨-, rfl⟩ := List.cons.inj heq
        exact hrest rfl
    | cons c s =>
        unfold escapeLine at heq
        split at heq
        · cases heq
        split at heq
        · cases heq
        · next hquote _ =>
            obtain ⟨first, more, he, hfirst, -⟩ := escape_eq_cons hquote
            rw [he] at heq
            exact hfirst (List.cons.inj heq).1
  have hshape : between ['\"'] (escapeLine s) ++ rest = '\"' :: (escapeLine s ++ '\"' :: rest) := by
    simp [between]
  rw [hshape, readString_ofLine hopen, readLine_escapeLine]

theorem readString_rawLine {s rest : List Char} (hne : s ≠ []) (hquote : ∀ c ∈ s, c ≠ '\'')
    (hcontrol : ∀ c ∈ s, isControl c = false) :
    readString (between ['\''] s ++ rest) = some (s, rest) := by
  have hopen : ∀ tail, s ++ '\'' :: rest ≠ '\'' :: '\'' :: tail := by
    intro tail heq
    cases s with
    | nil => exact hne rfl
    | cons c s => exact hquote c List.mem_cons_self (List.cons.inj heq).1
  have hshape : between ['\''] s ++ rest = '\'' :: (s ++ '\'' :: rest) := by simp [between]
  rw [hshape, readString_ofRawLine hopen, readRawLine_append hquote hcontrol]

theorem readString_escapeLines {s : List Char} {hasBreak : Bool}
    (hbreak : hasBreak = false → '\n' ∉ s) {rest : List Char} (hrest : rest.head? ≠ some '\"') :
    readString (betweenTripled '\"' hasBreak (escapeLines 0 s) ++ rest) = some (s, rest) := by
  have hfront : hasBreak = false →
      ∀ c ∈ (escapeLines 0 s ++ '\"' :: '\"' :: '\"' :: rest).head?, c ≠ '\n' ∧ c ≠ '\r' := by
    intro hnone
    have hs := hbreak hnone
    cases s with
    | nil => simp [escapeLines]
    | cons c s =>
        unfold escapeLines
        split
        · simp
        · next hquote =>
            obtain ⟨first, more, he, -, hfirst⟩ := escape_eq_cons hquote
            have hc : c ≠ '\n' := fun h => hs (h ▸ List.mem_cons_self)
            rw [he]
            simpa using hfirst hc
  rw [betweenTripled_append]
  show readLines false (skipBreak _) = _
  rw [skipBreak_broken hfront]
  exact readLines_escapeLines (n := 0) (by decide) s hrest

theorem readString_rawLines {s : List Char} {hasBreak : Bool}
    (hbreak : hasBreak = false → '\n' ∉ s) (hlongest : longestRun '\'' s ≤ 2)
    (hcontrol : ∀ c ∈ s, c ≠ '\n' → isControl c = false) {rest : List Char}
    (hrest : rest.head? ≠ some '\'') :
    readString (betweenTripled '\'' hasBreak s ++ rest) = some (s, rest) := by
  have hfront : hasBreak = false →
      ∀ c ∈ (s ++ '\'' :: '\'' :: '\'' :: rest).head?, c ≠ '\n' ∧ c ≠ '\r' := by
    intro hnone
    have hs := hbreak hnone
    cases s with
    | nil => simp
    | cons c s =>
        have hc : c ≠ '\n' := fun h => hs (h ▸ List.mem_cons_self)
        rintro d hd
        obtain rfl : c = d := Option.some.inj hd
        refine ⟨hc, ?_⟩
        rintro rfl
        exact absurd (hcontrol _ List.mem_cons_self hc) (by decide)
  rw [betweenTripled_append]
  show readRawLines (skipBreak _) = _
  rw [skipBreak_broken hfront]
  exact readRawLines_append (n := 0) (by decide) hlongest hcontrol hrest

/-- Every text is read back from its written form, whatever follows but a quote. -/
theorem readString_writeString (s rest : List Char) (hdouble : rest.head? ≠ some '\"')
    (hsingle : rest.head? ≠ some '\'') : readString (writeString s ++ rest) = some (s, rest) := by
  have hbreak : s.contains '\n' = false → '\n' ∉ s := by simp
  have hcontrol : (s.any fun c => isControl c && c != '\n') = false →
      ∀ c ∈ s, c ≠ '\n' → isControl c = false := by
    simp only [List.any_eq_false, Bool.and_eq_true, bne_iff_ne, ne_eq, not_and]
    intro h c hc hne
    simpa [hne] using h c hc
  unfold writeString
  simp only [Bool.and_eq_true, Bool.not_eq_true', decide_eq_true_eq]
  split
  · exact readString_escapeLine s hdouble
  split
  · next hplain hraw =>
      obtain ⟨⟨hnone, hzero⟩, hnobreak⟩ := hraw
      refine readString_rawLine ?_ (ne_of_longestRun_eq_zero hzero) fun c hc =>
        hcontrol hnone c hc fun h => hbreak hnobreak (h ▸ hc)
      -- The empty text has the plain form.
      rintro rfl
      exact hplain (by decide)
  split
  · exact readString_escapeLines hbreak hdouble
  split
  · next hraw => exact readString_rawLines hbreak hraw.2 (hcontrol hraw.1) hsingle
  split
  · exact readString_escapeLines hbreak hdouble
  · exact readString_escapeLine s hdouble

end OpenSql.Toml
