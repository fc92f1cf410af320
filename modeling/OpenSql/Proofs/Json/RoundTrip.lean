/-
# OpenSql.Proofs.Json.RoundTrip — a value is read back from the text that it is written as.

The text of a value is read wherever it stands, as long as what follows cannot be taken for more of it;
only numbers need that, since everything else closes itself.  The reader takes one unit of fuel for a value
and one for its place in a list.  Every value has a character at least, and so has every comma, so two units
for a character are always enough.  Reals are left out: their digits are rounded.
-/
import OpenSql.Json.Printer
import OpenSql.Json.Reader

namespace OpenSql.Json

/-! ## Strings -/

/-- The number in an escape is the character's. -/
theorem readEscapedChar?_hexDigits {c : Char} (h : c.toNat < 32) (rest : List Char) :
    readEscapedChar? (Text.hexDigits 4 c.toNat ++ rest) = some (c, rest) := by
  have hall : ∀ n < 32, Text.numberOfDigits? 16 (Text.hexDigits 4 n) = some n := by decide
  have hunit : readUnit? (Text.hexDigits 4 c.toNat ++ rest) = some (c.toNat, rest) := by
    have hnumber := hall c.toNat h
    simp only [Text.hexDigits, List.nil_append, List.cons_append] at hnumber ⊢
    rw [readUnit?, hnumber]
    rfl
  have hhigh : ¬ (0xD800 ≤ c.toNat ∧ c.toNat ≤ 0xDBFF) := by omega
  have hlow : ¬ (0xDC00 ≤ c.toNat ∧ c.toNat ≤ 0xDFFF) := by omega
  rw [readEscapedChar?, hunit]
  simp only [Option.bind_eq_bind, Option.bind_some, hhigh, hlow, if_false, Char.ofNat_toNat]

/-- A character is written as a short escape that stands for it, or by its number, or as it is; and then it
is no quote, no backslash and no control character. -/
theorem escapeChar_cases (c : Char) :
    (∃ letter, escapeChar c = ['\\', letter] ∧ letter ≠ 'u' ∧ shortEscape? letter = some c) ∨
      (escapeChar c = '\\' :: 'u' :: Text.hexDigits 4 c.toNat ∧ c.toNat < 32) ∨
      (escapeChar c = [c] ∧ c ≠ '\"' ∧ c ≠ '\\' ∧ ¬ c.toNat < 32) := by
  unfold escapeChar
  split
  · next hc => exact .inl ⟨'\"', rfl, by decide, by rw [hc]; rfl⟩
  next hquote =>
  split
  · next hc => exact .inl ⟨'\\', rfl, by decide, by rw [hc]; rfl⟩
  next hbackslash =>
  split
  · next hc => exact .inl ⟨'b', rfl, by decide, by rw [hc]; rfl⟩
  split
  · next hc => exact .inl ⟨'f', rfl, by decide, by rw [hc]; rfl⟩
  split
  · next hc => exact .inl ⟨'n', rfl, by decide, by rw [hc]; rfl⟩
  split
  · next hc => exact .inl ⟨'r', rfl, by decide, by rw [hc]; rfl⟩
  split
  · next hc => exact .inl ⟨'t', rfl, by decide, by rw [hc]; rfl⟩
  split
  · next hc => exact .inr (.inl ⟨rfl, hc⟩)
  · next hc => exact .inr (.inr ⟨rfl, hquote, hbackslash, hc⟩)

section Characters

variable {c : Char} (fuel : Nat) (rest : List Char)

theorem readString?_plain (hquote : c ≠ '\"') (hbackslash : c ≠ '\\') (hcontrol : ¬ c.toNat < 32) :
    readString? (fuel + 1) (c :: rest) =
      (readString? fuel rest).map fun (s, after) => (c :: s, after) := by
  rw [readString?.eq_def]
  dsimp only
  rw [if_neg hquote, if_neg hbackslash, if_neg hcontrol]
  cases readString? fuel rest <;> rfl

theorem readString?_letter {letter : Char} (hletter : letter ≠ 'u') (hshort : shortEscape? letter = some c) :
    readString? (fuel + 1) ('\\' :: letter :: rest) =
      (readString? fuel rest).map fun (s, after) => (c :: s, after) := by
  rw [readString?, if_neg (by decide), if_pos rfl]
  dsimp only
  rw [if_neg hletter, hshort]
  cases readString? fuel rest <;> rfl

theorem readString?_number (hcontrol : c.toNat < 32) :
    readString? (fuel + 1) ('\\' :: 'u' :: (Text.hexDigits 4 c.toNat ++ rest)) =
      (readString? fuel rest).map fun (s, after) => (c :: s, after) := by
  rw [readString?, if_neg (by decide), if_pos rfl]
  dsimp only
  rw [if_pos rfl, readEscapedChar?_hexDigits hcontrol]
  cases h : readString? fuel rest <;> simp [h]

/-- What is written for one character is read as that character. -/
theorem readString?_escapeChar (c : Char) :
    readString? (fuel + 1) (escapeChar c ++ rest) =
      (readString? fuel rest).map fun (s, after) => (c :: s, after) := by
  obtain ⟨letter, he, hletter, hshort⟩ | ⟨he, hcontrol⟩ | ⟨he, hquote, hbackslash, hcontrol⟩ :=
    escapeChar_cases c
  · rw [he]
    exact readString?_letter fuel rest hletter hshort
  · rw [he]
    exact readString?_number fuel rest hcontrol
  · rw [he]
    exact readString?_plain fuel rest hquote hbackslash hcontrol

end Characters

theorem readString?_escaped (s : List Char) {fuel : Nat} (hfuel : s.length < fuel) (rest : List Char) :
    readString? fuel (s.flatMap escapeChar ++ '\"' :: rest) = some (s, rest) := by
  induction s generalizing fuel with
  | nil =>
      obtain ⟨fuel, rfl⟩ : ∃ n, fuel = n + 1 := ⟨fuel - 1, by simp at hfuel; omega⟩
      simp [readString?]
  | cons c s ih =>
      obtain ⟨fuel, rfl⟩ : ∃ n, fuel = n + 1 := ⟨fuel - 1, by simp at hfuel; omega⟩
      rw [List.flatMap_cons, List.append_assoc, readString?_escapeChar, ih (by simpa using hfuel)]
      rfl

theorem length_le_escaped (s : List Char) : s.length ≤ (s.flatMap escapeChar).length := by
  induction s with
  | nil => exact Nat.le_refl 0
  | cons c s ih =>
      have hc : 1 ≤ (escapeChar c).length := by
        obtain ⟨letter, he, -⟩ | ⟨he, -⟩ | ⟨he, -⟩ := escapeChar_cases c <;> rw [he] <;> simp
      rw [List.flatMap_cons, List.length_append, List.length_cons]
      omega

/-- A string is read up to its closing quote, with the fuel that the text behind its opening one gives. -/
theorem readString?_stringText (name : String) (rest : List Char) :
    ∃ body, stringText name ++ rest = '\"' :: body ∧
      readString? (body.length + 1) body = some (name.toList, rest) := by
  refine ⟨name.toList.flatMap escapeChar ++ '\"' :: rest, by simp [stringText], ?_⟩
  refine readString?_escaped name.toList ?_ rest
  have hlength := length_le_escaped name.toList
  rw [List.length_append]
  omega

/-! ## Numbers -/

/-- What may follow a value: nothing, or a mark that ends it. -/
def Ends (rest : List Char) : Prop := ∀ c ∈ rest.head?, c = ',' ∨ c = ']' ∨ c = '\x7d'

theorem ends_nil : Ends [] := by simp [Ends]

theorem ends_cons {c : Char} (hc : c = ',' ∨ c = ']' ∨ c = '\x7d') (rest : List Char) : Ends (c :: rest) := by
  intro d hd
  obtain rfl : c = d := Option.some.inj hd
  exact hc

theorem Ends.digits_before {rest : List Char} (h : Ends rest) {ds : List Char}
    (hds : ∀ c ∈ ds, c.isDigit = true) :
    (ds ++ rest).takeWhile Char.isDigit = ds ∧ (ds ++ rest).dropWhile Char.isDigit = rest := by
  rw [List.takeWhile_append_of_pos hds, List.dropWhile_append_of_pos hds]
  cases rest with
  | nil => simp
  | cons c rest =>
      have hc : ¬ c.isDigit = true := by
        rcases h c rfl with rfl | rfl | rfl <;> decide
      rw [List.takeWhile_cons_of_neg hc, List.dropWhile_cons_of_neg hc, List.append_nil]
      exact ⟨rfl, rfl⟩

/-- The sign of a number. -/
def sign (negative : Bool) : List Char := if negative then ['-'] else []

theorem readNumber?_digits (negative : Bool) (n : Nat) {rest : List Char} (h : Ends rest) :
    readNumber? (sign negative ++ (Decimal.digits n ++ rest)) =
      (number? negative (Decimal.digits n) [] none).map (·, rest) := by
  have hds : ∀ c ∈ Decimal.digits n, c.isDigit = true := fun c hc => Decimal.isDigit_of_mem_digits hc
  obtain ⟨htake, hdrop⟩ := h.digits_before hds
  have hfront : ¬ ((Decimal.digits n).isEmpty ||
      ((Decimal.digits n).length != 1 && (Decimal.digits n).head? == some '0')) = true := by
    obtain hzero | ⟨c, ds, hsplit, hc⟩ := Decimal.digits_front n
    · rw [hzero]
      decide
    · rw [hsplit]
      simp [hc]
  have hsign : ∀ tail, Decimal.digits n ++ rest ≠ '-' :: tail := by
    intro tail heq
    obtain ⟨c, ds, hsplit⟩ := List.exists_cons_of_ne_nil (Decimal.digits_ne_nil n)
    rw [hsplit] at heq
    obtain rfl : c = '-' := (List.cons.inj heq).1
    exact absurd (hds '-' (by rw [hsplit]; exact List.mem_cons_self)) (by decide)
  -- Behind the digits stands no mark that a number could go on with.
  have hmarks : rest = [] ∨ ∃ c more, rest = c :: more ∧ (c = ',' ∨ c = ']' ∨ c = '\x7d') := by
    cases rest with
    | nil => exact .inl rfl
    | cons c more => exact .inr ⟨c, more, rfl, h c rfl⟩
  cases negative
  · show readNumber? (Decimal.digits n ++ rest) = _
    rw [readNumber?.eq_2 _ hsign, htake, hdrop, if_neg hfront]
    obtain rfl | ⟨c, more, rfl, rfl | rfl | rfl⟩ := hmarks <;>
      cases hnumber : number? false (Decimal.digits n) [] none <;> simp [hnumber]
  · show readNumber? ('-' :: (Decimal.digits n ++ rest)) = _
    rw [readNumber?.eq_1, htake, hdrop, if_neg hfront]
    obtain rfl | ⟨c, more, rfl, rfl | rfl | rfl⟩ := hmarks <;>
      cases hnumber : number? true (Decimal.digits n) [] none <;> simp [hnumber]

/-- The character can be the first of a number. -/
def BeginsNumber (c : Char) : Prop := c = '-' ∨ c.isDigit = true

theorem BeginsNumber.ne {c : Char} (h : BeginsNumber c) {mark : Char} (hminus : mark ≠ '-')
    (hdigit : mark.isDigit = false) : c ≠ mark := by
  rintro rfl
  rcases h with rfl | h
  · exact hminus rfl
  · rw [h] at hdigit
    cases hdigit

theorem BeginsNumber.isSpace_eq {c : Char} (h : BeginsNumber c) : isSpace c = false := by
  have hspace : c ≠ ' ' := h.ne (by decide) (by decide)
  have htab : c ≠ '\t' := h.ne (by decide) (by decide)
  have hline : c ≠ '\n' := h.ne (by decide) (by decide)
  have hreturn : c ≠ '\r' := h.ne (by decide) (by decide)
  simp [isSpace, hspace, htab, hline, hreturn]

theorem signedDigits_front (n : Int) : ∃ c s, Decimal.signedDigits n = c :: s ∧ BeginsNumber c := by
  cases n with
  | ofNat n =>
      obtain ⟨c, s, hsplit⟩ := List.exists_cons_of_ne_nil (Decimal.digits_ne_nil n)
      have hmem : c ∈ Decimal.digits n := by
        rw [hsplit]
        exact List.mem_cons_self
      exact ⟨c, s, hsplit, .inr (Decimal.isDigit_of_mem_digits hmem)⟩
  | negSucc n => exact ⟨'-', _, rfl, .inl rfl⟩

/-- The integers that stay integers: those that 64 bits hold with a sign or without one. -/
def Fits (n : Int) : Prop := -9223372036854775808 ≤ n ∧ n < 18446744073709551616

instance (n : Int) : Decidable (Fits n) := inferInstanceAs (Decidable (_ ∧ _))

theorem number?_digits {n : Nat} (hn : Fits n) :
    number? false (Decimal.digits n) [] none = some (.integer n) := by
  have hhigh : n < 18446744073709551616 := by
    have h := hn.2
    omega
  simp [number?, hhigh]

theorem number?_negative {n : Nat} (hn : Fits (Int.negSucc n)) :
    number? true (Decimal.digits (n + 1)) [] none = some (.integer (Int.negSucc n)) := by
  have hlow : n + 1 ≤ 9223372036854775808 := by
    have h := hn.1
    omega
  have hvalue : number? true (Decimal.digits (n + 1)) [] none = some (.integer (-((n + 1 : Nat) : Int))) := by
    simp [number?, hlow]
  exact hvalue

theorem readNumber?_signedDigits {n : Int} (hn : Fits n) {rest : List Char} (h : Ends rest) :
    readNumber? (Decimal.signedDigits n ++ rest) = some (.integer n, rest) := by
  cases n with
  | ofNat n =>
      have hread := readNumber?_digits false n h
      rwa [number?_digits hn] at hread
  | negSucc n =>
      have hread := readNumber?_digits true (n + 1) h
      rwa [number?_negative hn] at hread

/-! ## Values by their first characters -/

theorem skipSpace_cons {c : Char} (hc : isSpace c = false) (s : List Char) : skipSpace (c :: s) = c :: s :=
  List.dropWhile_cons_of_neg (by simp [hc])

section Values

variable (fuel depth : Nat) {rest after : List Char}

theorem readValue?_string (body : List Char) :
    readValue? (fuel + 1) depth ('\"' :: body) =
      (readString? (body.length + 1) body).map fun (s, after) => (.string (String.ofList s), after) := by
  rw [readValue?.eq_def, skipSpace_cons (by decide)]
  dsimp only
  rw [if_neg (by decide), if_neg (by decide), if_pos rfl]
  cases readString? (body.length + 1) body <;> rfl

theorem readValue?_number {c : Char} (hc : BeginsNumber c) :
    readValue? (fuel + 1) depth (c :: rest) = readNumber? (c :: rest) := by
  rw [readValue?.eq_def, skipSpace_cons hc.isSpace_eq]
  dsimp only
  rw [if_neg (hc.ne (by decide) (by decide)), if_neg (hc.ne (by decide) (by decide)),
    if_neg (hc.ne (by decide) (by decide)), if_neg (hc.ne (by decide) (by decide)),
    if_neg (hc.ne (by decide) (by decide)), if_neg (hc.ne (by decide) (by decide))]

theorem readValue?_emptyArray :
    readValue? (fuel + 1) (depth + 1) ('[' :: ']' :: rest) = some (.array [], rest) := by
  rw [readValue?.eq_def, skipSpace_cons (by decide)]
  simp [skipSpace_cons (show isSpace ']' = false by decide)]

theorem readValue?_array {c : Char} (hspace : isSpace c = false) (hc : c ≠ ']') :
    readValue? (fuel + 1) (depth + 1) ('[' :: c :: rest) =
      (readElements? fuel depth (c :: rest)).map fun (xs, after) => (.array xs, after) := by
  rw [readValue?.eq_def, skipSpace_cons (by decide)]
  simp only [skipSpace_cons hspace]
  cases readElements? fuel depth (c :: rest) <;> simp [hc]

theorem readValue?_emptyObject :
    readValue? (fuel + 1) (depth + 1) ('\x7b' :: '\x7d' :: rest) = some (.object [], rest) := by
  rw [readValue?.eq_def, skipSpace_cons (by decide)]
  simp [skipSpace_cons (show isSpace '\x7d' = false by decide)]

theorem readValue?_object :
    readValue? (fuel + 1) (depth + 1) ('\x7b' :: '\"' :: rest) =
      (readMembers? fuel depth ('\"' :: rest)).map fun (ms, after) => (.object ms, after) := by
  rw [readValue?.eq_def, skipSpace_cons (by decide)]
  simp only [skipSpace_cons (show isSpace '\"' = false by decide)]
  cases readMembers? fuel depth ('\"' :: rest) <;> rfl

/-! ## Lists of values -/

variable {fuel depth} {s : List Char} {x : Json}

theorem readElements?_last (hx : readValue? fuel depth s = some (x, ']' :: after)) :
    readElements? (fuel + 1) depth s = some ([x], after) := by
  rw [readElements?.eq_2, hx]
  simp [skipSpace_cons (show isSpace ']' = false by decide)]

theorem readElements?_more (hx : readValue? fuel depth s = some (x, ',' :: rest)) :
    readElements? (fuel + 1) depth s =
      (readElements? fuel depth rest).map fun (xs, after) => (x :: xs, after) := by
  rw [readElements?.eq_2, hx]
  simp only [skipSpace_cons (show isSpace ',' = false by decide), Option.bind_eq_bind, Option.bind_some]
  cases readElements? fuel depth rest <;> rfl

variable {body name : List Char}

theorem readMembers?_last (hname : readString? (body.length + 1) body = some (name, ':' :: s))
    (hx : readValue? fuel depth s = some (x, '\x7d' :: after)) :
    readMembers? (fuel + 1) depth ('\"' :: body) = some ([(String.ofList name, x)], after) := by
  rw [readMembers?.eq_2, skipSpace_cons (by decide)]
  simp [hname, skipSpace_cons (show isSpace ':' = false by decide), hx,
    skipSpace_cons (show isSpace '\x7d' = false by decide)]

theorem readMembers?_more (hname : readString? (body.length + 1) body = some (name, ':' :: s))
    (hx : readValue? fuel depth s = some (x, ',' :: rest)) :
    readMembers? (fuel + 1) depth ('\"' :: body) =
      (readMembers? fuel depth rest).map fun (ms, after) => ((String.ofList name, x) :: ms, after) := by
  rw [readMembers?.eq_2, skipSpace_cons (by decide)]
  simp only [hname, skipSpace_cons (show isSpace ':' = false by decide), hx,
    skipSpace_cons (show isSpace ',' = false by decide), Option.bind_eq_bind, Option.bind_some]
  cases readMembers? fuel depth rest <;> rfl

end Values

/-! ## Values that come back -/

/-- Values without reals, with integers that stay integers, nested at most so deep. -/
inductive Exact : Nat → Json → Prop
  | null {depth} : Exact depth .null
  | bool {depth b} : Exact depth (.bool b)
  | integer {depth n} : Fits n → Exact depth (.integer n)
  | string {depth s} : Exact depth (.string s)
  | array {depth elements} : (∀ x ∈ elements, Exact depth x) → Exact (depth + 1) (.array elements)
  | object {depth members} : (∀ m ∈ members, Exact depth m.2) → Exact (depth + 1) (.object members)

/-- The value is read from its text wherever that text ends. -/
def Reads (depth : Nat) (x : Json) : Prop :=
  ∀ fuel rest, 2 * (print x).length ≤ fuel → Ends rest →
    readValue? fuel depth (print x ++ rest) = some (x, rest)

/-- A text begins with a character that is no white space and closes no array. -/
theorem print_front {depth : Nat} {x : Json} (h : Exact depth x) :
    ∃ c s, print x = c :: s ∧ isSpace c = false ∧ c ≠ ']' := by
  cases h with
  | null => exact ⟨_, _, rfl, by decide, by decide⟩
  | @bool _ b => cases b <;> exact ⟨_, _, rfl, by decide, by decide⟩
  | @integer _ n =>
      obtain ⟨c, s, hsplit, hc⟩ := signedDigits_front n
      exact ⟨c, s, by rw [print, hsplit], hc.isSpace_eq, hc.ne (by decide) (by decide)⟩
  | string => exact ⟨_, _, rfl, by decide, by decide⟩
  | array => exact ⟨_, _, rfl, by decide, by decide⟩
  | object => exact ⟨_, _, rfl, by decide, by decide⟩

theorem reads_scalar {depth : Nat} {x : Json}
    (hread : ∀ fuel rest, Ends rest → readValue? (fuel + 1) depth (print x ++ rest) = some (x, rest))
    (hne : print x ≠ []) : Reads depth x := by
  intro fuel rest hfuel hends
  have hlength := List.length_pos_iff.mpr hne
  obtain ⟨fuel, rfl⟩ : ∃ n, fuel = n + 1 := ⟨fuel - 1, by omega⟩
  exact hread fuel rest hends

/-- Elements that are read one by one are read as a list.  The list takes a unit of fuel for each element,
beside what the element takes itself. -/
theorem readElements?_printElements {depth : Nat} {xs : List Json} (hne : xs ≠ [])
    (hreads : ∀ x ∈ xs, Reads depth x) {fuel : Nat} (hfuel : 2 * (printElements xs).length < fuel)
    (rest : List Char) :
    readElements? fuel depth (printElements xs ++ ']' :: rest) = some (xs, rest) := by
  induction xs generalizing fuel with
  | nil => exact absurd rfl hne
  | cons x xs ih =>
      obtain ⟨fuel, rfl⟩ : ∃ n, fuel = n + 1 := ⟨fuel - 1, by omega⟩
      have hx := hreads x List.mem_cons_self
      cases xs with
      | nil =>
          rw [printElements] at hfuel ⊢
          exact readElements?_last (hx fuel _ (by omega) (ends_cons (by decide) rest))
      | cons y ys =>
          rw [printElements, List.length_append, List.length_cons] at hfuel
          rw [printElements, List.append_assoc, List.cons_append,
            readElements?_more (hx fuel _ (by omega) (ends_cons (by decide) _)),
            ih (List.cons_ne_nil y ys) (fun z hz => hreads z (List.mem_cons_of_mem x hz)) (by omega)]
          rfl

theorem readMembers?_printMembers {depth : Nat} {ms : List (String × Json)} (hne : ms ≠ [])
    (hreads : ∀ m ∈ ms, Reads depth m.2) {fuel : Nat} (hfuel : 2 * (printMembers ms).length < fuel)
    (rest : List Char) :
    readMembers? fuel depth (printMembers ms ++ '\x7d' :: rest) = some (ms, rest) := by
  induction ms generalizing fuel with
  | nil => exact absurd rfl hne
  | cons m ms ih =>
      obtain ⟨fuel, rfl⟩ : ∃ n, fuel = n + 1 := ⟨fuel - 1, by omega⟩
      obtain ⟨name, x⟩ := m
      have hx : Reads depth x := hreads (name, x) List.mem_cons_self
      cases ms with
      | nil =>
          rw [printMembers, List.length_append, List.length_cons] at hfuel
          obtain ⟨body, htext, hname⟩ :=
            readString?_stringText name (':' :: (print x ++ '\x7d' :: rest))
          rw [printMembers, List.append_assoc, List.cons_append, htext,
            readMembers?_last hname (hx fuel _ (by omega) (ends_cons (by decide) rest)), String.ofList_toList]
      | cons m ms =>
          rw [printMembers, List.length_append, List.length_append, List.length_cons, List.length_cons] at hfuel
          obtain ⟨body, htext, hname⟩ := readString?_stringText name
            (':' :: (print x ++ ',' :: (printMembers (m :: ms) ++ '\x7d' :: rest)))
          rw [printMembers, List.append_assoc, List.append_assoc, List.cons_append, List.cons_append, htext,
            readMembers?_more hname (hx fuel _ (by omega) (ends_cons (by decide) _)),
            ih (List.cons_ne_nil m ms) (fun k hk => hreads k (List.mem_cons_of_mem (name, x) hk)) (by omega),
            String.ofList_toList]
          rfl

theorem printMembers_front (m : String × Json) (ms : List (String × Json)) :
    ∃ s, printMembers (m :: ms) = '\"' :: s := by
  cases ms <;> exact ⟨_, rfl⟩

theorem printElements_front {x : Json} {c : Char} {s : List Char} (h : print x = c :: s) (xs : List Json) :
    ∃ s', printElements (x :: xs) = c :: s' := by
  cases xs with
  | nil => exact ⟨s, h⟩
  | cons y ys => exact ⟨_, by rw [printElements, h]; rfl⟩

theorem reads_array {depth : Nat} {xs : List Json} (hexact : ∀ x ∈ xs, Exact depth x)
    (hreads : ∀ x ∈ xs, Reads depth x) : Reads (depth + 1) (.array xs) := by
  intro fuel rest hfuel hends
  rw [print, List.length_append, List.length_cons] at hfuel
  obtain ⟨fuel, rfl⟩ : ∃ n, fuel = n + 1 := ⟨fuel - 1, by omega⟩
  cases xs with
  | nil => exact readValue?_emptyArray fuel depth
  | cons x xs =>
      obtain ⟨c, s, hx, hspace, hc⟩ := print_front (hexact x List.mem_cons_self)
      obtain ⟨s', hs'⟩ := printElements_front hx xs
      have hread := readElements?_printElements (List.cons_ne_nil x xs) hreads
        (by omega : 2 * (printElements (x :: xs)).length < fuel) rest
      have htext : print (.array (x :: xs)) ++ rest = '[' :: (printElements (x :: xs) ++ ']' :: rest) := by
        simp [print]
      rw [htext, hs', List.cons_append, readValue?_array fuel depth hspace hc, ← List.cons_append, ← hs', hread]
      rfl

theorem reads_object {depth : Nat} {ms : List (String × Json)} (hreads : ∀ m ∈ ms, Reads depth m.2) :
    Reads (depth + 1) (.object ms) := by
  intro fuel rest hfuel hends
  rw [print, List.length_append, List.length_cons] at hfuel
  obtain ⟨fuel, rfl⟩ : ∃ n, fuel = n + 1 := ⟨fuel - 1, by omega⟩
  cases ms with
  | nil => exact readValue?_emptyObject fuel depth
  | cons m ms =>
      obtain ⟨s, hs⟩ := printMembers_front m ms
      have hread := readMembers?_printMembers (List.cons_ne_nil m ms) hreads
        (by omega : 2 * (printMembers (m :: ms)).length < fuel) rest
      have htext : print (.object (m :: ms)) ++ rest = '\x7b' :: (printMembers (m :: ms) ++ '\x7d' :: rest) := by
        simp [print]
      rw [htext, hs, List.cons_append, readValue?_object, ← List.cons_append, ← hs, hread]
      rfl

/-- Every exact value is read from its text.  The induction is on how the value is nested. -/
theorem Exact.reads {depth : Nat} {x : Json} (h : Exact depth x) : Reads depth x := by
  induction h with
  | null => exact reads_scalar (fun fuel rest _ => rfl) (by simp [print])
  | @bool depth b =>
      cases b with
      | false => exact reads_scalar (fun fuel rest _ => rfl) (by simp [print])
      | true => exact reads_scalar (fun fuel rest _ => rfl) (by simp [print])
  | @integer depth n hfits =>
      obtain ⟨c, s, hsplit, hc⟩ := signedDigits_front n
      refine reads_scalar (fun fuel rest hends => ?_) (by simp [print, hsplit])
      have hread := readNumber?_signedDigits hfits hends
      rw [hsplit] at hread
      rw [print, hsplit, List.cons_append, readValue?_number fuel depth hc, ← List.cons_append, hread]
  | @string depth name =>
      refine reads_scalar (fun fuel rest _ => ?_) (by simp [print, stringText])
      obtain ⟨body, htext, hname⟩ := readString?_stringText name rest
      rw [print, htext, readValue?_string, hname]
      simp
  | array hall ih => exact reads_array hall ih
  | object _ ih => exact reads_object ih

/-- Reading a text of which an exact value is all gives the value back. -/
theorem read?_print {x : Json} (h : Exact depthLimit x) : read? (print x) = some x := by
  have hread := h.reads (2 * (print x).length + 2) [] (by omega) ends_nil
  rw [List.append_nil] at hread
  rw [read?, hread]
  rfl

end OpenSql.Json
