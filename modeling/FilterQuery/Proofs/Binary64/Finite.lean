import FilterQuery.Binary64.Rounding
import Mathlib.Algebra.Group.Nat.Defs

/-!
# Whole numbers as doubles

A whole number of 64 bits is far below the largest double, so it is rounded to a finite one.
-/

namespace FilterQuery.Binary64

/-- A magnitude is that of the number made from it, with either sign. -/
theorem magnitude_ofMagnitude (negative : Bool) {magnitude : Nat} (h : magnitude < signPlace) :
  (ofMagnitude negative magnitude).magnitude = magnitude
  := by
  rw [Binary64.magnitude, ofMagnitude, UInt64.toNat_ofNat']
  unfold signPlace at *
  cases negative with
  | false =>
    rw [if_neg (by decide)]
    omega
  | true =>
    rw [if_pos rfl]
    omega

theorem isFinite_ofMagnitude (negative : Bool) {magnitude : Nat} (h : magnitude < infinite) :
  (ofMagnitude negative magnitude).isFinite
  := by
  have small : magnitude < signPlace := Nat.lt_trans h (by decide)
  rw [isFinite, magnitude_ofMagnitude negative small]
  apply decide_eq_true h

theorem roundHalfEven_le (num den : Nat) :
  roundHalfEven num den ≤ num / den + 1
  := by
  simp only [roundHalfEven]
  split
  · omega
  · split
    · omega
    · split <;> omega

/-- A number keeps at most 53 binary places when it is shifted to be rounded. -/
theorem div_shift_lt (n : Nat) :
  n / 2 ^ (n.log2 - 52) < 2 ^ 53
  := by
  apply Nat.div_lt_of_lt_mul
  calc n
      < 2 ^ (n.log2 + 1) := Nat.lt_log2_self
    _ ≤ 2 ^ (n.log2 - 52 + 53) := Nat.pow_le_pow_right (by decide) (by omega)
    _ = 2 ^ (n.log2 - 52) * 2 ^ 53 := Nat.pow_add _ _ _

/-- A number has as many more binary places as it is shifted. -/
theorem log2_shiftLeft_lt {n places : Nat} (positive : 0 < places) (h : n < 2 ^ places)
    (shift : Nat) :
  (n <<< shift).log2 < places + shift
  := by
  by_cases zero : n <<< shift = 0
  · rw [zero, Nat.log2_zero]
    apply Nat.add_pos_left positive
  · rw [Nat.log2_lt zero, Nat.shiftLeft_eq, Nat.pow_add]
    apply Nat.mul_lt_mul_of_pos_right h (Nat.two_pow_pos _)

/-- The magnitude of a natural number of 64 bits is finite. -/
theorem roundRatio_one_lt {n : Nat} (h : n < 2 ^ 64) :
  roundRatio n 1 < infinite
  := by
  have length : (n <<< 1074).log2 < 64 + 1074 := log2_shiftLeft_lt (by decide) h 1074
  have places := div_shift_lt (n <<< 1074)
  have rounded := roundHalfEven_le (n <<< 1074) (2 ^ ((n <<< 1074).log2 - 52))
  simp only [roundRatio, Nat.div_one, Nat.shiftLeft_eq _ _, Nat.one_mul]
  rw [← Nat.shiftLeft_eq n 1074]
  unfold binade infinite
  omega

/-- A whole number of 64 bits is rounded to a finite double. -/
theorem isFinite_ofInt {n : Int} (h : n.natAbs < 2 ^ 64) :
  (ofInt n).isFinite
  := by
  apply isFinite_ofMagnitude
  apply roundRatio_one_lt h

end FilterQuery.Binary64
