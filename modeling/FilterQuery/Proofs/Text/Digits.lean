import Mathlib.Tactic.Use

/-!
# Decimal digits

The digits of a number are digits and do not begin with a zero unless they are one.  Zeros in front
of digits do not count, and digits before something else are found as a whole.
-/

namespace FilterQuery.Text

theorem isDigit_toDigits (n : Nat) :
  ∀ c ∈ Nat.toDigits 10 n, c.isDigit
  := fun _ h => Nat.isDigit_of_mem_toDigits (by decide) (by decide) h

theorem isDigit_zeros (n : Nat) :
  ∀ c ∈ List.replicate n '0', c.isDigit
  := by
  intro c hc
  rw [List.eq_of_mem_replicate hc]
  rfl

/-- The digits of a number other than zero do not begin with a zero. -/
theorem head?_toDigits {n : Nat} (h : 0 < n) :
  (Nat.toDigits 10 n).head? ≠ some '0'
  := by
  induction n using Nat.strongRecOn with
  | ind n ih =>
    by_cases small : n < 10
    · rw [Nat.toDigits_of_lt_base small]
      have single : ∀ n < 10, 0 < n → [Nat.digitChar n].head? ≠ some '0' := by decide
      apply single n small h
    · rw [Nat.toDigits_of_base_le (by decide) (by omega), List.head?_append]
      have rest := ih (n / 10) (by omega) (by omega)
      cases found : (Nat.toDigits 10 (n / 10)).head? with
      | none => cases Nat.toDigits_ne_nil (List.head?_eq_none_iff.1 found)
      | some c =>
        rw [found] at rest
        apply rest

/-- Digits before something that does not begin with a digit are found as a whole. -/
theorem takeWhile_isDigit {digits rest : List Char} (h : ∀ c ∈ digits, c.isDigit)
    (ends : ∀ c ∈ rest.head?, c.isDigit = false) :
  (digits ++ rest).takeWhile Char.isDigit = digits
  := by
  rw [List.takeWhile_append_of_pos h]
  cases rest with
  | nil => simp
  | cons c rest => simp [ends c rfl]

/-- Zeros in front of digits do not count. -/
theorem ofDigitChars_zeros (zeros : Nat) (digits : List Char) :
  Nat.ofDigitChars 10 (List.replicate zeros '0' ++ digits) 0 = Nat.ofDigitChars 10 digits 0
  := by
  rw [Nat.ofDigitChars_append, Nat.ofDigitChars_replicate_zero, Nat.mul_zero]

end FilterQuery.Text
