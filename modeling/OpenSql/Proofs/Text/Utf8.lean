/-
# OpenSql.Proofs.Text.Utf8 — what the strict reader of bytes accepts.

The reader takes bytes apart by arithmetic on lead bytes and continuations.  What it accepts can be said
without any of that: the bytes are those of a text, each character in the one form that the encoding has
for it.  Overlong forms, surrogates and numbers past the last code point have no character, so they are
refused.
-/
import OpenSql.Text.Utf8

namespace OpenSql.Text

/-! ## Bytes of a text -/

theorem toList_loop_eq (bytes : ByteArray) (i : Nat) (before : List UInt8) :
    ByteArray.toList.loop bytes i before = before.reverse ++ bytes.data.toList.drop i := by
  fun_induction ByteArray.toList.loop bytes i before with
  | case1 i before hlt ih =>
      have hlength : i < bytes.data.toList.length := by simpa using hlt
      rw [ih, List.drop_eq_getElem_cons hlength]
      simp [ByteArray.get!, getElem!_pos, hlt]
  | case2 i before hge =>
      have hlength : bytes.data.toList.length ≤ i := by simpa using hge
      rw [List.drop_of_length_le hlength, List.append_nil]

theorem encodeUtf8_eq (s : String) : encodeUtf8 s = s.toList.flatMap String.utf8EncodeChar := by
  have hbytes : s.toUTF8 = (s.toList.flatMap String.utf8EncodeChar).toByteArray :=
    (String.utf8Encode_toList).symm
  rw [encodeUtf8, hbytes, ByteArray.toList, toList_loop_eq]
  simp

/-! ## One character -/

/-- The lead byte of two tells that one byte follows, and so on; the shortest form and the gap of the
surrogates bound the byte behind it. -/
theorem leadByte?_eq (b : Nat) :
    leadByte? b =
      if 0xC2 ≤ b ∧ b ≤ 0xDF then some (0x80, 0xBF, 1)
      else if 0xE0 ≤ b ∧ b ≤ 0xEF then
        some (if b = 0xE0 then 0xA0 else 0x80, if b = 0xED then 0x9F else 0xBF, 2)
      else if 0xF0 ≤ b ∧ b ≤ 0xF4 then
        some (if b = 0xF0 then 0x90 else 0x80, if b = 0xF4 then 0x8F else 0xBF, 3)
      else none := by
  grind [leadByte?]

theorem continuation_eq_iff {count low high value n : Nat} {bytes rest : List UInt8} :
    continuation (count + 1) low high value bytes = (n, true, rest) ↔
      ∃ b tail, bytes = b :: tail ∧ low ≤ b.toNat ∧ b.toNat ≤ high ∧
        continuation count 0x80 0xBF (value * 64 + (b.toNat - 0x80)) tail = (n, true, rest) := by
  cases bytes with
  | nil => simp [continuation]
  | cons b bytes =>
      simp only [continuation]
      split
      · next hrange =>
          constructor
          · intro h
            exact ⟨b, bytes, rfl, hrange.1, hrange.2, h⟩
          · rintro ⟨b', tail, heq, -, -, h⟩
            obtain ⟨rfl, rfl⟩ := List.cons.inj heq
            exact h
      · next hrange =>
          constructor
          · intro h
            cases h
          · rintro ⟨b', tail, heq, hlow, hhigh, -⟩
            obtain ⟨rfl, rfl⟩ := List.cons.inj heq
            exact absurd ⟨hlow, hhigh⟩ hrange

theorem continuation_zero_eq_iff {low high value n : Nat} {bytes rest : List UInt8} :
    continuation 0 low high value bytes = (n, true, rest) ↔ value = n ∧ bytes = rest := by
  rw [continuation, Prod.mk.injEq, Prod.mk.injEq]
  simp only [true_and]

theorem toNat_ofNat_of_valid {n : Nat} (h : n < 0xD800 ∨ 0xDFFF < n ∧ n < 0x110000) :
    (Char.ofNat n).val.toNat = n := by
  have hvalid : n.isValidChar := h
  rw [Char.ofNat, dif_pos hvalid]
  rfl

theorem val_valid (c : Char) :
    c.val.toNat < 0xD800 ∨ 0xDFFF < c.val.toNat ∧ c.val.toNat < 0x110000 := c.valid

theorem ofNat_eq_of_toNat (b : UInt8) {n : Nat} (h : b.toNat = n) : UInt8.ofNat n = b := by
  rw [← h, UInt8.ofNat_toNat]

theorem encode_two {b b₁ : UInt8} (hlead : 0xC2 ≤ b.toNat ∧ b.toNat ≤ 0xDF)
    (h₁ : 0x80 ≤ b₁.toNat ∧ b₁.toNat ≤ 0xBF) :
    String.utf8EncodeChar (Char.ofNat (b.toNat % 32 * 64 + (b₁.toNat - 0x80))) = [b, b₁] := by
  have hvalue := toNat_ofNat_of_valid (n := b.toNat % 32 * 64 + (b₁.toNat - 0x80)) (by omega)
  simp only [String.utf8EncodeChar, hvalue]
  rw [if_neg (by omega), if_pos (by omega), ofNat_eq_of_toNat b (by omega),
    ofNat_eq_of_toNat b₁ (by omega)]

theorem encode_three {b b₁ b₂ : UInt8} (hlead : 0xE0 ≤ b.toNat ∧ b.toNat ≤ 0xEF)
    (h₁ : (0x80 ≤ b₁.toNat ∧ b₁.toNat ≤ 0xBF) ∧ (b.toNat = 0xE0 → 0xA0 ≤ b₁.toNat) ∧
      (b.toNat = 0xED → b₁.toNat ≤ 0x9F)) (h₂ : 0x80 ≤ b₂.toNat ∧ b₂.toNat ≤ 0xBF) :
    String.utf8EncodeChar
        (Char.ofNat ((b.toNat % 16 * 64 + (b₁.toNat - 0x80)) * 64 + (b₂.toNat - 0x80))) =
      [b, b₁, b₂] := by
  have hvalue := toNat_ofNat_of_valid
    (n := (b.toNat % 16 * 64 + (b₁.toNat - 0x80)) * 64 + (b₂.toNat - 0x80)) (by omega)
  simp only [String.utf8EncodeChar, hvalue]
  rw [if_neg (by omega), if_neg (by omega), if_pos (by omega), ofNat_eq_of_toNat b (by omega),
    ofNat_eq_of_toNat b₁ (by omega), ofNat_eq_of_toNat b₂ (by omega)]

theorem encode_four {b b₁ b₂ b₃ : UInt8} (hlead : 0xF0 ≤ b.toNat ∧ b.toNat ≤ 0xF4)
    (h₁ : (0x80 ≤ b₁.toNat ∧ b₁.toNat ≤ 0xBF) ∧ (b.toNat = 0xF0 → 0x90 ≤ b₁.toNat) ∧
      (b.toNat = 0xF4 → b₁.toNat ≤ 0x8F)) (h₂ : 0x80 ≤ b₂.toNat ∧ b₂.toNat ≤ 0xBF)
    (h₃ : 0x80 ≤ b₃.toNat ∧ b₃.toNat ≤ 0xBF) :
    String.utf8EncodeChar
        (Char.ofNat (((b.toNat % 8 * 64 + (b₁.toNat - 0x80)) * 64 + (b₂.toNat - 0x80)) * 64 +
          (b₃.toNat - 0x80))) =
      [b, b₁, b₂, b₃] := by
  have hvalue := toNat_ofNat_of_valid
    (n := ((b.toNat % 8 * 64 + (b₁.toNat - 0x80)) * 64 + (b₂.toNat - 0x80)) * 64 + (b₃.toNat - 0x80))
    (by omega)
  simp only [String.utf8EncodeChar, hvalue]
  rw [if_neg (by omega), if_neg (by omega), if_neg (by omega), ofNat_eq_of_toNat b (by omega),
    ofNat_eq_of_toNat b₁ (by omega), ofNat_eq_of_toNat b₂ (by omega),
    ofNat_eq_of_toNat b₃ (by omega)]

/-- A stretch that is read as a character is the encoding of the character. -/
theorem encode_of_scan {b : UInt8} {bytes rest : List UInt8} {c : Char}
    (h : scan b bytes = (some c, rest)) : b :: bytes = String.utf8EncodeChar c ++ rest := by
  unfold scan at h
  split at h
  · -- A byte below the lead bytes is a character by itself.
    next hascii =>
      obtain ⟨hc, rfl⟩ := Prod.mk.inj h
      obtain rfl := Option.some.inj hc
      have hvalue := toNat_ofNat_of_valid (n := b.toNat) (by omega)
      have hshort : b.toNat ≤ 127 := by omega
      simp only [String.utf8EncodeChar, hvalue, if_pos hshort, UInt8.ofNat_toNat]
      rfl
  next hlong =>
  rw [leadByte?_eq] at h
  split at h
  · cases h
  next low high count hlead =>
  dsimp only at h
  generalize hrun : continuation count low high (b.toNat % Nat.pow 2 (6 - count)) bytes = run at h
  obtain ⟨n, complete, after⟩ := run
  cases complete with
  | false => cases h
  | true =>
      obtain ⟨hc, rfl⟩ := Prod.mk.inj h
      obtain rfl := Option.some.inj hc
      -- The lead byte decides how many bytes were read, and in which range the first of them is.
      split at hlead
      · next htwo =>
          cases hlead
          obtain ⟨b₁, tail, rfl, hlow, hhigh, hrun⟩ := continuation_eq_iff.mp hrun
          obtain ⟨rfl, rfl⟩ := continuation_zero_eq_iff.mp hrun
          exact congrArg (· ++ tail) (encode_two htwo ⟨hlow, hhigh⟩).symm
      split at hlead
      · next hthree =>
          cases hlead
          obtain ⟨b₁, tail, rfl, hlow, hhigh, hrun⟩ := continuation_eq_iff.mp hrun
          obtain ⟨b₂, tail, rfl, hlow₂, hhigh₂, hrun⟩ := continuation_eq_iff.mp hrun
          obtain ⟨rfl, rfl⟩ := continuation_zero_eq_iff.mp hrun
          have hrange : (0x80 ≤ b₁.toNat ∧ b₁.toNat ≤ 0xBF) ∧ (b.toNat = 0xE0 → 0xA0 ≤ b₁.toNat) ∧
              (b.toNat = 0xED → b₁.toNat ≤ 0x9F) := by
            split at hlow <;> split at hhigh <;> omega
          exact congrArg (· ++ tail) (encode_three hthree hrange ⟨hlow₂, hhigh₂⟩).symm
      split at hlead
      · next hfour =>
          cases hlead
          obtain ⟨b₁, tail, rfl, hlow, hhigh, hrun⟩ := continuation_eq_iff.mp hrun
          obtain ⟨b₂, tail, rfl, hlow₂, hhigh₂, hrun⟩ := continuation_eq_iff.mp hrun
          obtain ⟨b₃, tail, rfl, hlow₃, hhigh₃, hrun⟩ := continuation_eq_iff.mp hrun
          obtain ⟨rfl, rfl⟩ := continuation_zero_eq_iff.mp hrun
          have hrange : (0x80 ≤ b₁.toNat ∧ b₁.toNat ≤ 0xBF) ∧ (b.toNat = 0xF0 → 0x90 ≤ b₁.toNat) ∧
              (b.toNat = 0xF4 → b₁.toNat ≤ 0x8F) := by
            split at hlow <;> split at hhigh <;> omega
          have hencode := encode_four hfour hrange ⟨hlow₂, hhigh₂⟩ ⟨hlow₃, hhigh₃⟩
          exact congrArg (· ++ tail) hencode.symm
      · cases hlead

theorem scan_of_lead {b : UInt8} {bytes rest : List UInt8} {low high count n : Nat}
    (hlong : 0x80 ≤ b.toNat) (hlead : leadByte? b.toNat = some (low, high, count))
    (hrun : continuation count low high (b.toNat % Nat.pow 2 (6 - count)) bytes = (n, true, rest)) :
    scan b bytes = (some (Char.ofNat n), rest) := by
  rw [scan, if_neg (Nat.not_lt.mpr hlong), hlead]
  simp only [hrun, if_true]

/-- The encoding of a character is read as the character, whatever follows. -/
theorem scan_encode (c : Char) (rest : List UInt8) :
    ∃ b bytes, String.utf8EncodeChar c ++ rest = b :: bytes ∧ scan b bytes = (some c, rest) := by
  have hvalid := val_valid c
  have hc : Char.ofNat c.val.toNat = c := Char.ofNat_toNat c
  generalize hv : c.val.toNat = v at hvalid hc
  -- The bytes stay below 256, so that arithmetic on numbers says what they are.
  have hbyte : ∀ n, n < 256 → (UInt8.ofNat n).toNat = n := fun n hn => by
    rw [UInt8.toNat_ofNat', Nat.mod_eq_of_lt hn]
  have h₁ := hbyte (v % 64 + 128) (by omega)
  simp only [String.utf8EncodeChar, hv]
  split
  · next hone =>
      refine ⟨_, _, rfl, ?_⟩
      rw [scan, hbyte v (by omega), if_pos (by omega), hc]
      rfl
  split
  · next hone htwo =>
      have hb := hbyte (v / 64 % 32 + 192) (by omega)
      have hlead := leadByte?_eq (UInt8.ofNat (v / 64 % 32 + 192)).toNat
      rw [if_pos (by omega)] at hlead
      refine ⟨_, _, rfl, hc ▸ scan_of_lead (by omega) hlead ?_⟩
      refine continuation_eq_iff.mpr ⟨_, _, rfl, by omega, by omega, ?_⟩
      exact continuation_zero_eq_iff.mpr ⟨by rw [hb, h₁, show Nat.pow 2 (6 - 1) = 32 from rfl]; omega, rfl⟩
  have h₂ := hbyte (v / 64 % 64 + 128) (by omega)
  split
  · next hone htwo hthree =>
      have hb := hbyte (v / 4096 % 16 + 224) (by omega)
      have hlead := leadByte?_eq (UInt8.ofNat (v / 4096 % 16 + 224)).toNat
      rw [if_neg (by omega), if_pos (by omega)] at hlead
      refine ⟨_, _, rfl, hc ▸ scan_of_lead (by omega) hlead ?_⟩
      refine continuation_eq_iff.mpr ⟨_, _, rfl, by split <;> omega, by split <;> omega, ?_⟩
      refine continuation_eq_iff.mpr ⟨_, _, rfl, by omega, by omega, ?_⟩
      exact continuation_zero_eq_iff.mpr ⟨by rw [hb, h₁, h₂, show Nat.pow 2 (6 - 2) = 16 from rfl]; omega, rfl⟩
  · next hone htwo hthree =>
      have h₃ := hbyte (v / 4096 % 64 + 128) (by omega)
      have hb := hbyte (v / 262144 % 8 + 240) (by omega)
      have hlead := leadByte?_eq (UInt8.ofNat (v / 262144 % 8 + 240)).toNat
      rw [if_neg (by omega), if_neg (by omega), if_pos (by omega)] at hlead
      refine ⟨_, _, rfl, hc ▸ scan_of_lead (by omega) hlead ?_⟩
      refine continuation_eq_iff.mpr ⟨_, _, rfl, by split <;> omega, by split <;> omega, ?_⟩
      refine continuation_eq_iff.mpr ⟨_, _, rfl, by omega, by omega, ?_⟩
      refine continuation_eq_iff.mpr ⟨_, _, rfl, by omega, by omega, ?_⟩
      exact continuation_zero_eq_iff.mpr
        ⟨by rw [hb, h₁, h₂, h₃, show Nat.pow 2 (6 - 3) = 8 from rfl]; omega, rfl⟩

/-! ## Texts -/

theorem scanAll_encode (s : List Char) (rest : List UInt8) :
    scanAll (s.flatMap String.utf8EncodeChar ++ rest) = s.map some ++ scanAll rest := by
  induction s with
  | nil => rfl
  | cons c s ih =>
      obtain ⟨b, bytes, hbytes, hscan⟩ := scan_encode c (s.flatMap String.utf8EncodeChar ++ rest)
      rw [List.flatMap_cons, List.append_assoc, hbytes, scanAll, hscan, ih]
      rfl

theorem encode_of_scanAll {bytes : List UInt8} {s : List Char}
    (h : scanAll bytes = s.map some) : bytes = s.flatMap String.utf8EncodeChar := by
  induction s generalizing bytes with
  | nil =>
      cases bytes with
      | nil => rfl
      | cons b bytes =>
          rw [scanAll] at h
          cases h
  | cons c s ih =>
      cases bytes with
      | nil =>
          rw [scanAll] at h
          cases h
      | cons b bytes =>
          rw [scanAll, List.map_cons] at h
          obtain ⟨hc, hrest⟩ := List.cons.inj h
          have hscan : scan b bytes = (some c, (scan b bytes).2) := Prod.ext hc rfl
          rw [encode_of_scan hscan, List.flatMap_cons, ← ih hrest]

theorem mapM_id_eq_some_iff {α : Type} {xs : List (Option α)} {ys : List α} :
    xs.mapM id = some ys ↔ xs = ys.map some := by
  induction xs generalizing ys with
  | nil => cases ys <;> simp
  | cons x xs ih =>
      cases x with
      | none => cases ys <;> simp
      | some x =>
          cases ys with
          | nil => simp [Option.bind_eq_some_iff]
          | cons y ys =>
              simp only [List.mapM_cons, id, Option.bind_eq_bind, Option.bind_some, Option.pure_def,
                Option.bind_eq_some_iff, Option.some.injEq, List.map_cons, List.cons.injEq, ih]
              constructor
              · rintro ⟨_, rfl, rfl, rfl⟩
                exact ⟨rfl, rfl⟩
              · rintro ⟨rfl, rfl⟩
                exact ⟨ys, rfl, rfl, rfl⟩

/-- The strict reader accepts the bytes of texts, and nothing else. -/
theorem decodeUtf8?_eq_some_iff {bytes : List UInt8} {s : String} :
    decodeUtf8? bytes = some s ↔ bytes = encodeUtf8 s := by
  rw [decodeUtf8?, Option.map_eq_some_iff, encodeUtf8_eq]
  constructor
  · rintro ⟨cs, hall, rfl⟩
    rw [String.toList_ofList]
    exact encode_of_scanAll (mapM_id_eq_some_iff.mp hall)
  · rintro rfl
    refine ⟨s.toList, mapM_id_eq_some_iff.mpr ?_, String.ofList_toList⟩
    have h := scanAll_encode s.toList []
    rwa [List.append_nil, scanAll, List.append_nil] at h

theorem decodeUtf8?_encodeUtf8 (s : String) : decodeUtf8? (encodeUtf8 s) = some s :=
  decodeUtf8?_eq_some_iff.mpr rfl

end OpenSql.Text
