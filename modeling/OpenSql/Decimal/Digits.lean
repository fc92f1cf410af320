/-
# OpenSql.Decimal.Digits — natural numbers in decimal notation, and back.

The digits of a number and the number of a list of digits are inverse to each other: reading what is
written gives the number back (`ofDigits_digits`).  What is written consists of digits only
(`isDigit_of_mem_digits`) and is never empty.
-/

namespace OpenSql.Decimal

/-- The character of a digit. -/
def digitChar (d : Nat) : Char := Char.ofNat (48 + d)

/-- The value of a decimal digit character. -/
def digitValue (c : Char) : Nat := c.toNat - 48

/-- The digits of a number, most significant first, without leading zeros. -/
def digits (n : Nat) : List Char :=
  if n < 10 then [digitChar n] else digits (n / 10) ++ [digitChar (n % 10)]

/-- The number that a list of digits denotes. -/
def ofDigits (s : List Char) : Nat := s.foldl (fun n c => n * 10 + digitValue c) 0

/-- The digits of an integer, after a minus sign if it is negative. -/
def signedDigits : Int → List Char
  | .ofNat n => digits n
  | .negSucc n => '-' :: digits (n + 1)

theorem isDigit_digitChar {d : Nat} (h : d < 10) : (digitChar d).isDigit = true :=
  (by decide : ∀ e < 10, (digitChar e).isDigit = true) d h

theorem digitValue_digitChar {d : Nat} (h : d < 10) : digitValue (digitChar d) = d :=
  (by decide : ∀ e < 10, digitValue (digitChar e) = e) d h

theorem ofDigits_append_singleton (s : List Char) (c : Char) :
    ofDigits (s ++ [c]) = ofDigits s * 10 + digitValue c := by
  simp [ofDigits]

@[simp]
theorem ofDigits_digits (n : Nat) : ofDigits (digits n) = n := by
  fun_induction digits n with
  | case1 n h => simp [ofDigits, digitValue_digitChar h]
  | case2 n h ih =>
    rw [ofDigits_append_singleton, ih, digitValue_digitChar (Nat.mod_lt _ (by decide))]
    omega

theorem isDigit_of_mem_digits {n : Nat} {c : Char} (h : c ∈ digits n) : c.isDigit = true := by
  fun_induction digits n with
  | case1 n hn => simp only [List.mem_singleton] at h; subst h; exact isDigit_digitChar hn
  | case2 n hn ih =>
    rcases List.mem_append.1 h with h | h
    · exact ih h
    · simp only [List.mem_singleton] at h
      subst h
      exact isDigit_digitChar (Nat.mod_lt _ (by decide))

theorem digits_ne_nil (n : Nat) : digits n ≠ [] := by
  fun_cases digits n <;> simp_all

/-- No number but zero is written with a zero in front. -/
theorem digits_front (n : Nat) : digits n = ['0'] ∨ ∃ c ds, digits n = c :: ds ∧ c ≠ '0' := by
  fun_induction digits n with
  | case1 n hlt =>
    have hall : ∀ d < 10, [digitChar d] = ['0'] ∨ digitChar d ≠ '0' := by decide
    exact (hall n hlt).imp_right fun h => ⟨_, [], rfl, h⟩
  | case2 n hge ih =>
    obtain hzero | ⟨c, ds, hds, hc⟩ := ih
    · -- The number without its last digit is not zero.
      have hvalue := ofDigits_digits (n / 10)
      rw [hzero] at hvalue
      have hnone : ofDigits ['0'] = 0 := rfl
      omega
    · exact .inr ⟨c, _, by rw [hds]; rfl, hc⟩

/-- The text that a number is written as. -/
def text (n : Nat) : String := String.ofList (digits n)

/-- The text that an integer is written as. -/
def signedText (n : Int) : String := String.ofList (signedDigits n)

end OpenSql.Decimal
