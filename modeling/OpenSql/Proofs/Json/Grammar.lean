/-
# OpenSql.Proofs.Json.Grammar — what is written follows the grammar of the format.

The grammar is stated here without a reader: which characters may stand between quotes, which digits make a
number, and how texts go together to arrays and objects.  It covers the texts that have no white space
between tokens and no fractions; every one of them is a text of the format.
-/
import OpenSql.Proofs.Json.RoundTrip

namespace OpenSql.Json

/-! ## Strings -/

/-- What may stand between the quotes of a string: characters that are no quotes, backslashes or control
characters, and escapes by a letter or by four hexadecimal digits. -/
inductive Quotable : List Char → Prop
  | nil : Quotable []
  | plain {c s} : c ≠ '\"' → c ≠ '\\' → 32 ≤ c.toNat → Quotable s → Quotable (c :: s)
  | letter {c s} : c ∈ ['\"', '\\', '/', 'b', 'f', 'n', 'r', 't'] → Quotable s → Quotable ('\\' :: c :: s)
  | number {ds s} : ds.length = 4 → (∀ d ∈ ds, (Text.hexValue? d).isSome) → Quotable s →
      Quotable ('\\' :: 'u' :: (ds ++ s))

theorem mem_of_shortEscape? {letter c : Char} (h : shortEscape? letter = some c) :
    letter ∈ ['\"', '\\', '/', 'b', 'f', 'n', 'r', 't'] := by
  refine Decidable.byContradiction fun hmem => ?_
  simp only [List.mem_cons, List.not_mem_nil, or_false, not_or] at hmem
  simp [shortEscape?, hmem] at h

theorem length_hexDigits (width n : Nat) : (Text.hexDigits width n).length = width := by
  induction width generalizing n with
  | zero => rfl
  | succ width ih => rw [Text.hexDigits, List.length_append, ih, List.length_singleton]

theorem isSome_hexValue? {width n : Nat} {d : Char} (h : d ∈ Text.hexDigits width n) :
    (Text.hexValue? d).isSome := by
  have hdigit : ∀ n < 16, (Text.hexValue? (Text.hexDigit n)).isSome := by decide
  induction width generalizing n with
  | zero => cases h
  | succ width ih =>
      rcases List.mem_append.mp h with h | h
      · exact ih h
      · obtain rfl := List.mem_singleton.mp h
        exact hdigit (n % 16) (Nat.mod_lt n (by decide))

theorem quotable_escapeChar (c : Char) {s : List Char} (h : Quotable s) : Quotable (escapeChar c ++ s) := by
  obtain ⟨letter, he, -, hshort⟩ | ⟨he, hcontrol⟩ | ⟨he, hquote, hbackslash, hcontrol⟩ := escapeChar_cases c
  · rw [he]
    exact .letter (mem_of_shortEscape? hshort) h
  · rw [he]
    exact .number (length_hexDigits 4 c.toNat) (fun _ => isSome_hexValue?) h
  · rw [he]
    exact .plain hquote hbackslash (Nat.le_of_not_lt hcontrol) h

theorem quotable_escaped (s : List Char) : Quotable (s.flatMap escapeChar) := by
  induction s with
  | nil => exact .nil
  | cons c s ih => exact quotable_escapeChar c ih

/-! ## Values -/

/-- A member of an object: the name between quotes, a colon and a text. -/
def memberText (member : List Char × List Char) : List Char := '\"' :: member.1 ++ '\"' :: ':' :: member.2

/-- Texts of the format without white space, whose numbers are whole. -/
inductive Compact : List Char → Prop
  | null : Compact ['n', 'u', 'l', 'l']
  | yes : Compact ['t', 'r', 'u', 'e']
  | no : Compact ['f', 'a', 'l', 's', 'e']
  | number {ds} (negative : Bool) : ds ≠ [] → (∀ c ∈ ds, c.isDigit = true) →
      (ds.head? = some '0' → ds = ['0']) → Compact (sign negative ++ ds)
  | string {s} : Quotable s → Compact ('\"' :: s ++ ['\"'])
  | array {texts} : (∀ t ∈ texts, Compact t) → Compact ('[' :: [','].intercalate texts ++ [']'])
  | object {members : List (List Char × List Char)} : (∀ m ∈ members, Quotable m.1) →
      (∀ m ∈ members, Compact m.2) →
      Compact ('\x7b' :: [','].intercalate (members.map memberText) ++ ['\x7d'])

theorem compact_digits (negative : Bool) (n : Nat) : Compact (sign negative ++ Decimal.digits n) := by
  refine .number negative (Decimal.digits_ne_nil n) (fun c hc => Decimal.isDigit_of_mem_digits hc) ?_
  intro hhead
  obtain hzero | ⟨c, ds, hsplit, hc⟩ := Decimal.digits_front n
  · exact hzero
  · rw [hsplit] at hhead
    exact absurd (Option.some.inj hhead) hc

theorem printElements_eq (xs : List Json) : printElements xs = [','].intercalate (xs.map print) := by
  induction xs with
  | nil => rfl
  | cons x xs ih =>
      cases xs with
      | nil => simp [printElements]
      | cons y ys =>
          rw [printElements, ih]
          simp [List.intercalate_cons_cons]

theorem printMembers_eq (ms : List (String × Json)) :
    printMembers ms =
      [','].intercalate ((ms.map fun m => (m.1.toList.flatMap escapeChar, print m.2)).map memberText) := by
  induction ms with
  | nil => rfl
  | cons m ms ih =>
      have htext : stringText m.1 ++ ':' :: print m.2 =
          memberText (m.1.toList.flatMap escapeChar, print m.2) := by
        simp [stringText, memberText]
      cases ms with
      | nil => simp [printMembers, htext]
      | cons m' ms =>
          rw [printMembers, ih, htext]
          simp [List.intercalate_cons_cons]

theorem Exact.compact {depth : Nat} {x : Json} (h : Exact depth x) : Compact (print x) := by
  induction h with
  | null => exact .null
  | @bool _ b =>
      cases b with
      | false => exact .no
      | true => exact .yes
  | @integer _ n =>
      cases n with
      | ofNat n => exact compact_digits false n
      | negSucc n => exact compact_digits true (n + 1)
  | string => exact .string (quotable_escaped _)
  | @array _ xs _ ih =>
      rw [print, printElements_eq]
      refine .array fun t ht => ?_
      obtain ⟨x, hx, rfl⟩ := List.mem_map.mp ht
      exact ih x hx
  | @object _ ms _ ih =>
      rw [print, printMembers_eq]
      refine .object (fun m hm => ?_) fun m hm => ?_
      · obtain ⟨member, -, rfl⟩ := List.mem_map.mp hm
        exact quotable_escaped _
      · obtain ⟨member, hmember, rfl⟩ := List.mem_map.mp hm
        exact ih member hmember

end OpenSql.Json
