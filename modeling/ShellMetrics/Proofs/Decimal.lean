import ShellMetrics.Number.Numeral

/-!
# Decimal numerals

A number is written in decimal digits, without zeros in front that mean nothing and with a minus
sign below zero.  The value of its digits is the number again.
-/

namespace ShellMetrics.Text

/-- A row of decimal digits for `n`, with no zero in front of other digits. -/
structure IsDigitsOf (n : Nat) (digits : Text) : Prop where
  isDigit : ∀ c ∈ digits, c.isDigit = true
  ne_nil : digits ≠ []
  eq_zero : digits.head? = some '0' → digits = ['0']
  value : Numeral.digitsValue digits = n

def IsDecimal (n : Int) (text : Text) : Prop :=
  ∃ digits, IsDigitsOf n.natAbs digits ∧ text = if n < 0 then '-' :: digits else digits

theorem digitsValue_eq_ofDigitChars (digits : Text) :
    Numeral.digitsValue digits = Nat.ofDigitChars 10 digits 0 :=
  Nat.ofDigitChars_eq_foldl.symm

/-- The first digit is a zero for zero only. -/
theorem head?_toDigits_ne_zero {n : Nat} (h : 0 < n) : (Nat.toDigits 10 n).head? ≠ some '0' := by
  induction n using Nat.strongRecOn with
  | ind n ih =>
    by_cases hsmall : n < 10
    · have hdigit : ∀ m < 10, 0 < m → Nat.digitChar m ≠ '0' := by decide
      rw [Nat.toDigits_of_lt_base hsmall]
      simpa using hdigit n hsmall h
    · have hrest := ih (n / 10) (by omega) (by omega)
      rw [Nat.toDigits_of_base_le (by omega) (by omega)]
      have hne : Nat.toDigits 10 (n / 10) ≠ [] := Nat.toDigits_ne_nil
      obtain ⟨c, digits, hdigits⟩ := List.exists_cons_of_ne_nil hne
      rw [hdigits] at hrest ⊢
      exact hrest

/-- A natural number is written in digits with no zero in front. -/
theorem isDigitsOf_ofNat (n : Nat) : IsDigitsOf n (ofNat n) where
  isDigit c hc := Nat.isDigit_of_mem_toDigits (by omega) (by omega) hc
  ne_nil := Nat.toDigits_ne_nil
  eq_zero hzero := by
    rcases Nat.eq_zero_or_pos n with rfl | hpos
    · rfl
    · exact absurd hzero (head?_toDigits_ne_zero hpos)
  value := by rw [digitsValue_eq_ofDigitChars, ofNat, Nat.ofDigitChars_ten_toDigits]

/-- A whole number is written as a decimal numeral. -/
theorem isDecimal_ofInt (n : Int) : IsDecimal n (ofInt n) := by
  cases n with
  | ofNat n => exact ⟨ofNat n, isDigitsOf_ofNat n, rfl⟩
  | negSucc n =>
    have hneg : Int.negSucc n < 0 := Int.negSucc_lt_zero n
    exact ⟨ofNat (n + 1), isDigitsOf_ofNat (n + 1), by rw [if_pos hneg, ofInt]⟩

theorem IsDecimal.ne_nil {n : Int} {text : Text} (h : IsDecimal n text) : text ≠ [] := by
  obtain ⟨digits, hdigits, rfl⟩ := h
  split
  · exact List.cons_ne_nil _ _
  · exact hdigits.ne_nil

theorem IsDecimal.isDigit_or_eq_minus {n : Int} {text : Text} (h : IsDecimal n text) {c : Char}
    (hc : c ∈ text) : c.isDigit = true ∨ c = '-' := by
  obtain ⟨digits, hdigits, rfl⟩ := h
  split at hc
  · rcases List.mem_cons.1 hc with hminus | hdigit
    · exact .inr hminus
    · exact .inl (hdigits.isDigit c hdigit)
  · exact .inl (hdigits.isDigit c hc)

end ShellMetrics.Text
