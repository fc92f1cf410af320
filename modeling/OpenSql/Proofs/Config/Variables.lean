/-
# OpenSql.Proofs.Config.Variables — what the texts of variables stand for.

White space around a text does not count.  What is left must be one of a few words for a truth value, and
for a timeout a number in decimal digits that 64 bits can hold.  Both are described here by how the whole
text is put together, and the readers are shown to accept exactly what is described.
-/
import OpenSql.Config.Load

namespace OpenSql

namespace Text

/-! ## Texts between white space -/

theorem dropWhile_isBlank_append {s t : List Char} (hs : AllBlank s) :
    (s ++ t).dropWhile isBlank = t.dropWhile isBlank := by
  rw [List.dropWhile_append, dropWhile_eq_nil_of_forall hs, List.isEmpty_nil, if_pos rfl]

theorem trim_of_forall {s : List Char} (hs : ∀ c ∈ s, isBlank c = false) : trim s = s := by
  have hkeep : ∀ {t : List Char}, (∀ c ∈ t, isBlank c = false) → t.dropWhile isBlank = t := by
    intro t ht
    cases t with
    | nil => rfl
    | cons c t => rw [List.dropWhile_cons_of_neg (by simp [ht c List.mem_cons_self])]
  have hreverse : ∀ c ∈ s.reverse, isBlank c = false := fun c hc => hs c (List.mem_reverse.mp hc)
  rw [trim, hkeep hs, hkeep hreverse, List.reverse_reverse]

/-- White space around a text without white space is all that is cut off. -/
theorem trim_append {before word after : List Char} (hbefore : AllBlank before)
    (hword : ∀ c ∈ word, isBlank c = false) (hafter : AllBlank after) :
    trim (before ++ word ++ after) = word := by
  have hreverse : AllBlank after.reverse := fun c hc => hafter c (List.mem_reverse.mp hc)
  rw [List.append_assoc, trim, dropWhile_isBlank_append hbefore]
  cases word with
  | nil => rw [List.nil_append, dropWhile_eq_nil_of_forall hafter]; rfl
  | cons c word =>
      have hfirst : ¬ isBlank c = true := by simp [hword c List.mem_cons_self]
      have hfull := trim_of_forall hword
      rw [trim, List.dropWhile_cons_of_neg hfirst] at hfull
      rw [List.cons_append, List.dropWhile_cons_of_neg hfirst, ← List.cons_append, List.reverse_append,
        dropWhile_isBlank_append hreverse, hfull]

theorem exists_trim (s : List Char) :
    ∃ before after, s = before ++ trim s ++ after ∧ AllBlank before ∧ AllBlank after := by
  have hsplit : ∀ t : List Char, ∃ front, t = front ++ t.dropWhile isBlank ∧ AllBlank front :=
    fun t => ⟨t.takeWhile isBlank, List.takeWhile_append_dropWhile.symm,
      List.all_eq_true.mp List.all_takeWhile⟩
  obtain ⟨before, hs, hbefore⟩ := hsplit s
  obtain ⟨behind, hrest, hbehind⟩ := hsplit (s.dropWhile isBlank).reverse
  refine ⟨before, behind.reverse, ?_, hbefore, fun c hc => hbehind c (List.mem_reverse.mp hc)⟩
  have hmiddle : s.dropWhile isBlank = trim s ++ behind.reverse := by
    rw [← List.reverse_reverse (s.dropWhile isBlank), hrest, List.reverse_append]
    rfl
  rw [List.append_assoc, ← hmiddle]
  exact hs

/-- Signs, digits and letters of ASCII are no white space. -/
theorem not_isBlank_of_visible {c : Char} (hlow : 33 ≤ c.toNat) (hhigh : c.toNat < 127) :
    isBlank c = false :=
  (by decide : ∀ n < 127, 33 ≤ n → inRanges blankBounds n = false) c.toNat hhigh hlow

/-- White space is not moved by lower case. -/
theorem toLower_of_isBlank {c : Char} (hblank : isBlank c = true) : c.toLower = c := by
  refine dif_neg fun hletter => ?_
  have hlow : 65 ≤ c.toNat := hletter.1
  have hhigh : c.toNat ≤ 90 := hletter.2
  rw [not_isBlank_of_visible (by omega) (by omega)] at hblank
  cases hblank

theorem not_isBlank_of_isDigit {c : Char} (hdigit : c.isDigit = true) : isBlank c = false := by
  obtain ⟨hlow, hhigh⟩ : '0'.val ≤ c.val ∧ c.val ≤ '9'.val := by simpa [Char.isDigit] using hdigit
  have hlow : 48 ≤ c.toNat := hlow
  have hhigh : c.toNat ≤ 57 := hhigh
  exact not_isBlank_of_visible (by omega) (by omega)

theorem not_isBlank_of_lower {s : List Char} (hs : ∀ c ∈ lower s, isBlank c = false) :
    ∀ c ∈ s, isBlank c = false := by
  intro c hc
  cases hblank : isBlank c with
  | false => rfl
  | true =>
      have hlower := hs c.toLower (List.mem_map_of_mem hc)
      rw [toLower_of_isBlank hblank, hblank] at hlower
      cases hlower

end Text

namespace SessionConfig

/-! ## Truth values -/

/-- The words for a truth value. -/
def flagWords (b : Bool) : List String := if b then onWords else offWords

/-- The text is a word for the truth value, in letters of any case and with white space around it. -/
def FlagText (text : String) (b : Bool) : Prop :=
  ∃ before word after, text.toList = before ++ word ++ after ∧ Text.AllBlank before ∧
    Text.AllBlank after ∧ String.ofList (Text.lower word) ∈ flagWords b

/-- No word switches on and off. -/
theorem flag?_word (word : String) (b : Bool) :
    (if onWords.contains word then some true else if offWords.contains word then some false else none) =
        some b ↔ word ∈ flagWords b := by
  have hdisjoint : ∀ w ∈ onWords, w ∉ offWords := by decide
  cases b <;> grind [flagWords]

theorem trim_of_flagWord {before word after : List Char} {b : Bool}
    (hbefore : Text.AllBlank before) (hafter : Text.AllBlank after)
    (hword : String.ofList (Text.lower word) ∈ flagWords b) :
    Text.trim (before ++ word ++ after) = word := by
  have hwords : ∀ b, ∀ w ∈ flagWords b, w.toList.all (!Text.isBlank ·) = true := by decide
  have hlower : ∀ c ∈ Text.lower word, Text.isBlank c = false := by
    simpa using hwords b _ hword
  exact Text.trim_append hbefore (Text.not_isBlank_of_lower hlower) hafter

theorem flag?_eq_some_iff (text : String) (b : Bool) : flag? text = some b ↔ FlagText text b := by
  rw [flag?, flag?_word]
  constructor
  · intro hword
    obtain ⟨before, after, hsplit, hbefore, hafter⟩ := Text.exists_trim text.toList
    exact ⟨before, _, after, hsplit, hbefore, hafter, hword⟩
  · rintro ⟨before, word, after, hsplit, hbefore, hafter, hword⟩
    rwa [hsplit, trim_of_flagWord hbefore hafter hword]

/-! ## Timeouts -/

/-- The text is a number in decimal digits, with or without a plus sign and white space around it.  The
number is what the digits denote, and nothing is cut off from it. -/
def TimeoutText (text : String) (n : UInt64) : Prop :=
  ∃ before sign digits after, text.toList = before ++ (sign ++ digits) ++ after ∧
    Text.AllBlank before ∧ Text.AllBlank after ∧ (sign = [] ∨ sign = ['+']) ∧ digits ≠ [] ∧
    (∀ c ∈ digits, c.isDigit = true) ∧ Decimal.ofDigits digits = n.toNat

theorem unsignedDigits?_eq_some_iff {s digits : List Char} :
    unsignedDigits? s = some digits ↔
      ∃ sign, s = sign ++ digits ∧ (sign = [] ∨ sign = ['+']) ∧ digits ≠ [] ∧
        ∀ c ∈ digits, c.isDigit = true := by
  have hcheck : ∀ t : List Char,
      (if t.isEmpty || !t.all Char.isDigit then none else some t) = some digits ↔
        t = digits ∧ digits ≠ [] ∧ ∀ c ∈ digits, c.isDigit = true := by
    intro t
    by_cases ht : t = [] <;> by_cases hall : t.all Char.isDigit = true <;> grind
  unfold unsignedDigits?
  split
  · next t =>
      rw [hcheck]
      constructor
      · rintro ⟨rfl, hne, hdigits⟩
        exact ⟨['+'], rfl, .inr rfl, hne, hdigits⟩
      · rintro ⟨sign, hsplit, rfl | rfl, hne, hdigits⟩
        · -- A plus sign is no digit.
          rw [List.nil_append] at hsplit
          rw [← hsplit] at hdigits
          cases hdigits '+' List.mem_cons_self
        · exact ⟨(List.cons.inj hsplit).2, hne, hdigits⟩
  · next t hplus =>
      rw [hcheck]
      constructor
      · rintro ⟨rfl, hne, hdigits⟩
        exact ⟨[], rfl, .inl rfl, hne, hdigits⟩
      · rintro ⟨sign, hsplit, rfl | rfl, hne, hdigits⟩
        · exact ⟨hsplit, hne, hdigits⟩
        · exact absurd hsplit (hplus digits)

theorem timeout?_eq_some_iff (text : String) (n : UInt64) :
    timeout? text = some n ↔ TimeoutText text n := by
  constructor
  · intro h
    rw [timeout?] at h
    split at h
    · cases h
    next digits hdigits =>
    obtain ⟨sign, htrim, hsign, hne, hall⟩ := unsignedDigits?_eq_some_iff.mp hdigits
    obtain ⟨before, after, hsplit, hbefore, hafter⟩ := Text.exists_trim text.toList
    dsimp only at h
    split at h
    · next hfits =>
        refine ⟨before, sign, digits, after, htrim ▸ hsplit, hbefore, hafter, hsign, hne, hall, ?_⟩
        rw [← Option.some.inj h, UInt64.toNat_ofNat', Nat.mod_eq_of_lt hfits]
    · cases h
  · rintro ⟨before, sign, digits, after, hsplit, hbefore, hafter, hsign, hne, hall, hvalue⟩
    have hblank : ∀ c ∈ sign ++ digits, Text.isBlank c = false := by
      intro c hc
      rcases List.mem_append.mp hc with hc | hc
      · rcases hsign with rfl | rfl
        · cases hc
        · obtain rfl := List.mem_singleton.mp hc
          decide
      · exact Text.not_isBlank_of_isDigit (hall c hc)
    have hread : unsignedDigits? (Text.trim text.toList) = some digits := by
      rw [hsplit, Text.trim_append hbefore hblank hafter]
      exact unsignedDigits?_eq_some_iff.mpr ⟨sign, rfl, hsign, hne, hall⟩
    rw [timeout?, hread]
    dsimp only
    rw [hvalue, if_pos n.toNat_lt, UInt64.ofNat_toNat]

end SessionConfig

end OpenSql
