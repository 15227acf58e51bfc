import FilterQuery.Decimal.Basic
import Mathlib.Tactic.Positivity
import Mathlib.Tactic.Ring
import Mathlib.Tactic.Use

/-!
# Normal decimals

Zeros at the end of a coefficient can be moved to the exponent and back.  `Decimal.normal` does not
depend on how many of them have been moved, and it changes nothing when it is applied again.
-/

namespace FilterQuery.Decimal

/-- Stripping moves a number of zeros from the coefficient to the exponent. -/
theorem strip_shift (coefficient : Nat) (exponent : Int) :
  ∃ zeros : Nat, (strip coefficient exponent).exponent = exponent + zeros
    ∧ coefficient = (strip coefficient exponent).coefficient * 10 ^ zeros
  := by
  fun_induction strip coefficient exponent with
  | case1 coefficient exponent h ih =>
    obtain ⟨zeros, hexponent, hcoefficient⟩ := ih
    use zeros + 1
    constructor
    · push_cast
      omega
    · rw [Nat.pow_succ, ← Nat.mul_assoc, ← hcoefficient]
      omega
  | case2 coefficient exponent h =>
    use 0
    simp

theorem strip_pos {coefficient : Nat} (h : 0 < coefficient) (exponent : Int) :
  0 < (strip coefficient exponent).coefficient
  := by
  obtain ⟨zeros, -, same⟩ := strip_shift coefficient exponent
  apply Nat.pos_of_ne_zero
  intro zero
  rw [zero, Nat.zero_mul] at same
  omega

/-- A stripped coefficient that is not zero does not end in a zero. -/
theorem strip_strip (coefficient : Nat) (exponent : Int) :
  strip (strip coefficient exponent).coefficient (strip coefficient exponent).exponent
    = strip coefficient exponent
  := by
  fun_induction strip coefficient exponent with
  | case1 coefficient exponent h ih => apply ih
  | case2 coefficient exponent h => rw [strip, if_neg h]

theorem strip_mul_pow {coefficient : Nat} (h : 0 < coefficient) (exponent : Int) (zeros : Nat) :
  strip (coefficient * 10 ^ zeros) exponent = strip coefficient (exponent + zeros)
  := by
  induction zeros generalizing exponent with
  | zero => simp
  | succ zeros ih =>
    have positive : 0 < coefficient * 10 ^ zeros := by positivity
    have split : coefficient * 10 ^ (zeros + 1) = coefficient * 10 ^ zeros * 10 := by ring
    rw [split, strip, if_pos (by omega), Nat.mul_div_cancel _ (by decide), ih]
    congr 1
    push_cast
    ring

theorem normal_of_ne_zero {coefficient : Nat} {exponent : Int} (h : coefficient ≠ 0) :
  normal ⟨coefficient, exponent⟩ = strip coefficient exponent
  := by
  rw [normal, if_neg h]

/-- Zeros can be moved between the coefficient and the exponent. -/
theorem normal_mul_pow (coefficient zeros : Nat) (exponent : Int) :
  normal ⟨coefficient * 10 ^ zeros, exponent⟩ = normal ⟨coefficient, exponent + zeros⟩
  := by
  rcases Nat.eq_zero_or_pos coefficient with rfl | positive
  · simp [normal]
  · have product : coefficient * 10 ^ zeros ≠ 0 := by positivity
    rw [normal_of_ne_zero product, normal_of_ne_zero positive.ne', strip_mul_pow positive]

theorem normal_normal (d : Decimal) :
  d.normal.normal = d.normal
  := by
  unfold normal
  split
  · rfl
  · next h =>
    rw [if_neg (Nat.ne_of_gt (strip_pos (Nat.pos_of_ne_zero h) _)), strip_strip]

/-- Only zero has the coefficient zero, and it has the exponent 0. -/
theorem exponent_normal_of_zero {d : Decimal} (h : d.normal.coefficient = 0) :
  d.normal.exponent = 0
  := by
  unfold normal at *
  split at h
  · simp_all
  · next nonzero =>
    have := strip_pos (Nat.pos_of_ne_zero nonzero) d.exponent
    omega

end FilterQuery.Decimal
