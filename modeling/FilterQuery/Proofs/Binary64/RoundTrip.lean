import FilterQuery.Binary64.Shortest
import FilterQuery.Proofs.Decimal.Normal

/-!
# Shortest decimals read back

A finite magnitude is a whole number of units, and rounding gives it back from any ratio that is
exactly that number.  So the decimal with all the digits of a number reads back, and every other
decimal that `shortest` gives has been tried before.
-/

namespace FilterQuery.Binary64

/-! ### Units -/

/-- The digits of a magnitude that are shifted. -/
def significand (magnitude : Nat) : Nat := magnitude - shift magnitude * binade

theorem units_eq (magnitude : Nat) :
  units magnitude = significand magnitude * 2 ^ shift magnitude
  := Nat.shiftLeft_eq _ _

theorem shift_add_significand (magnitude : Nat) :
  shift magnitude * binade + significand magnitude = magnitude
  := by
  unfold significand shift binade
  omega

theorem significand_lt (magnitude : Nat) :
  significand magnitude < 2 ^ 53
  := by
  unfold significand shift binade
  omega

theorem significand_pos {magnitude : Nat} (h : 0 < magnitude) :
  0 < significand magnitude
  := by
  unfold significand shift binade
  omega

/-- Digits are only shifted when there are fifty-three of them. -/
theorem le_significand {magnitude : Nat} (h : shift magnitude ≠ 0) :
  2 ^ 52 ≤ significand magnitude
  := by
  unfold significand
  unfold shift binade at *
  omega

theorem shift_lt {magnitude : Nat} (finite : magnitude < infinite) :
  shift magnitude < 2046
  := by
  unfold shift binade
  unfold infinite at finite
  omega

theorem units_pos {magnitude : Nat} (h : 0 < magnitude) :
  0 < units magnitude
  := by
  rw [units_eq]
  have := significand_pos h
  positivity

theorem units_lt {magnitude : Nat} (finite : magnitude < infinite) :
  units magnitude < 2 ^ 2098
  := by
  have bound : 2 ^ shift magnitude ≤ 2 ^ 2045 := by
    apply Nat.pow_le_pow_right (by decide)
    have := shift_lt finite
    omega
  calc units magnitude
      < 2 ^ 53 * 2 ^ shift magnitude := by
        rw [units_eq]
        apply Nat.mul_lt_mul_of_pos_right (significand_lt magnitude) (Nat.two_pow_pos _)
    _ ≤ 2 ^ 53 * 2 ^ 2045 := Nat.mul_le_mul_left _ bound
    _ = 2 ^ 2098 := by rw [show 2098 = 53 + 2045 from rfl, Nat.pow_add]

/-- The shift of a magnitude is found from the binary length of its units. -/
theorem log2_units {magnitude : Nat} (h : 0 < magnitude) :
  (units magnitude).log2 - 52 = shift magnitude
  := by
  have positive := units_pos h
  have small := significand_lt magnitude
  by_cases unshifted : shift magnitude = 0
  · rw [units_eq, unshifted, Nat.pow_zero, Nat.mul_one]
    have := (Nat.log2_lt (by have := significand_pos h; omega)).2 small
    omega
  · have exact : (units magnitude).log2 = 52 + shift magnitude := by
      rw [Nat.log2_eq_iff (by omega), units_eq]
      constructor
      · rw [Nat.pow_add]
        apply Nat.mul_le_mul_right
        apply le_significand unshifted
      · rw [show 52 + shift magnitude + 1 = 53 + shift magnitude by omega, Nat.pow_add]
        apply Nat.mul_lt_mul_of_pos_right small (Nat.two_pow_pos _)
    omega

/-! ### Rounding exact ratios -/

theorem roundHalfEven_mul {den : Nat} (n : Nat) (h : 0 < den) :
  roundHalfEven (n * den) den = n
  := by
  simp [roundHalfEven, Nat.mul_div_cancel n h, h]

/-- A ratio that is exactly a magnitude is rounded to it. -/
theorem roundRatio_of_eq {magnitude num den : Nat} (positive : 0 < magnitude)
    (finite : magnitude < infinite) (h : 0 < den)
    (exact : num * 2 ^ 1074 = units magnitude * den) :
  roundRatio num den = magnitude
  := by
  have scaled : units magnitude * den
      = significand magnitude * (den * 2 ^ shift magnitude) := by
    rw [units_eq]
    ring
  simp only [roundRatio, Nat.shiftLeft_eq, exact, Nat.mul_div_cancel _ h, log2_units positive]
  rw [scaled, roundHalfEven_mul _ (by positivity), shift_add_significand]
  omega

/-! ### The decimal with all digits -/

theorem coefficient_lt (d : Decimal) :
  d.coefficient < 10 ^ d.digits.length
  := by
  apply (Nat.length_toDigits_le_iff (by decide) Nat.length_toDigits_pos).1
  apply Nat.le_refl

theorem le_coefficient {d : Decimal} (h : 0 < d.coefficient) :
  10 ^ (d.digits.length - 1) ≤ d.coefficient
  := by
  by_contra below
  rcases Nat.eq_zero_or_pos (d.digits.length - 1) with zero | positive
  · rw [zero] at below
    omega
  · have := (Nat.length_toDigits_le_iff (by decide) positive).2 (Nat.lt_of_not_le below)
    unfold Decimal.digits at *
    omega

theorem mul_natPow (n base places : Nat) :
  n * Nat.pow base places = n * base ^ places
  := rfl

theorem five_pow_pos (places : Nat) :
  0 < 5 ^ places
  := Nat.pow_pos (by decide)

theorem two_pow_mul_five_pow (places : Nat) :
  2 ^ places * 5 ^ places = 10 ^ places
  := (Nat.mul_pow 2 5 places).symm

/-- A decimal that is exactly a magnitude is rounded to it. -/
theorem roundDecimal_of_eq {magnitude : Nat} {d : Decimal} {zeros : Nat}
    (positive : 0 < magnitude) (finite : magnitude < infinite)
    (exponent : d.exponent = -1074 + zeros)
    (exact : units magnitude * 5 ^ 1074 = d.coefficient * 10 ^ zeros) :
  roundDecimal d = magnitude
  := by
  have five := five_pow_pos 1074
  have nonzero : 0 < d.coefficient :=
    Nat.pos_of_mul_pos_right (exact ▸ Nat.mul_pos (units_pos positive) five)
  have notLarge : d.digits.length - 1 + zeros < 1474 := by
    apply (Nat.pow_lt_pow_iff_right (by decide : 1 < 10)).1
    calc 10 ^ (d.digits.length - 1 + zeros)
        ≤ d.coefficient * 10 ^ zeros := by
          rw [Nat.pow_add]
          apply Nat.mul_le_mul_right _ (le_coefficient nonzero)
      _ = units magnitude * 5 ^ 1074 := exact.symm
      _ < 2 ^ 2098 * 5 ^ 1074 := Nat.mul_lt_mul_of_pos_right (units_lt finite) five
      _ ≤ 10 ^ 1474 := by decide +kernel
  have notSmall : 674 < d.digits.length + zeros := by
    apply (Nat.pow_lt_pow_iff_right (by decide : 1 < 10)).1
    calc 10 ^ 674
        < 1 * 5 ^ 1074 := by decide +kernel
      _ ≤ units magnitude * 5 ^ 1074 := Nat.mul_le_mul_right _ (units_pos positive)
      _ = d.coefficient * 10 ^ zeros := exact
      _ ≤ 10 ^ (d.digits.length + zeros) := by
          rw [Nat.pow_add]
          apply Nat.mul_le_mul_right _ (Nat.le_of_lt (coefficient_lt d))
  unfold roundDecimal Decimal.leadingExponent
  rw [if_neg (Nat.ne_of_gt nonzero), if_neg (by omega), if_neg (by omega)]
  split
  · next natural =>
    have split : zeros = d.exponent.toNat + 1074 := by omega
    apply roundRatio_of_eq positive finite (by decide)
    apply Nat.eq_of_mul_eq_mul_right five
    rw [mul_natPow, Nat.mul_assoc, two_pow_mul_five_pow, Nat.mul_assoc, ← Nat.pow_add, ← split,
      Nat.mul_one, exact]
  · next negative =>
    have split : 1074 = zeros + d.exponent.natAbs := by omega
    apply roundRatio_of_eq positive finite (Nat.pow_pos (by decide))
    apply Nat.eq_of_mul_eq_mul_right five
    rw [Nat.mul_assoc, two_pow_mul_five_pow, Nat.mul_right_comm, exact, Nat.mul_assoc,
      ← Nat.pow_add, ← split]

theorem roundDecimal_normal_of_eq {magnitude coefficient : Nat} (positive : 0 < magnitude)
    (finite : magnitude < infinite) (h : units magnitude * 5 ^ 1074 = coefficient) :
  roundDecimal (Decimal.normal ⟨coefficient, -1074⟩) = magnitude
  := by
  have nonzero : coefficient ≠ 0 := by
    rw [← h]
    apply Nat.mul_ne_zero (units_pos positive).ne' (five_pow_pos 1074).ne'
  obtain ⟨zeros, exponent, same⟩ := Decimal.strip_shift coefficient (-1074)
  rw [Decimal.normal_of_ne_zero nonzero]
  apply roundDecimal_of_eq positive finite exponent (h.trans same)

theorem roundDecimal_exactDecimal {magnitude : Nat} (positive : 0 < magnitude)
    (finite : magnitude < infinite) :
  roundDecimal (exactDecimal magnitude) = magnitude
  := by
  rw [exactDecimal, mul_natPow]
  apply roundDecimal_normal_of_eq positive finite rfl

/-! ### The shortest decimal -/

/-- A decimal that is found on a grid is normal, and it is rounded to the magnitude. -/
theorem shortestWith_spec {tie : Tie} {magnitude count : Nat} {lead : Int} {d : Decimal}
    (h : shortestWith tie magnitude lead count = some d) :
  d.normal = d ∧ roundDecimal d = magnitude
  := by
  unfold shortestWith at h
  extract_lets exponent power num den below twice low high prefersLow nearer farther at h
  have nearerNormal : nearer.normal = nearer := by
    unfold nearer
    split <;> apply Decimal.normal_normal
  have fartherNormal : farther.normal = farther := by
    unfold farther
    split <;> apply Decimal.normal_normal
  split at h
  · next tried =>
    rw [← Option.some.inj h]
    exact ⟨nearerNormal, tried⟩
  · split at h
    · next tried =>
      rw [← Option.some.inj h]
      exact ⟨fartherNormal, tried⟩
    · cases h

theorem shortest_zero (tie : Tie) :
  shortest tie 0 = ⟨0, 0⟩
  := by
  rw [shortest, if_pos rfl]

theorem shortest_of_ne_zero (tie : Tie) {magnitude : Nat} (h : magnitude ≠ 0) :
  shortest tie magnitude
    = ((List.range 17).findSome? fun i =>
        shortestWith tie magnitude (leadingExponent magnitude) (i + 1)).getD
      (exactDecimal magnitude)
  := by
  rw [shortest, if_neg h]

/-- The shortest decimal of a finite magnitude is normal, and it is rounded to the magnitude. -/
theorem shortest_spec (tie : Tie) {magnitude : Nat} (finite : magnitude < infinite) :
  (shortest tie magnitude).normal = shortest tie magnitude
    ∧ roundDecimal (shortest tie magnitude) = magnitude
  := by
  by_cases zero : magnitude = 0
  · rw [zero, shortest_zero]
    exact ⟨rfl, rfl⟩
  · rw [shortest_of_ne_zero tie zero]
    cases found : (List.range 17).findSome? fun i =>
        shortestWith tie magnitude (leadingExponent magnitude) (i + 1) with
    | none =>
      rw [Option.getD_none]
      constructor
      · apply Decimal.normal_normal
      · apply roundDecimal_exactDecimal (Nat.pos_of_ne_zero zero) finite
    | some d =>
      obtain ⟨count, -, h⟩ := List.exists_of_findSome?_eq_some found
      apply shortestWith_spec h

/-! ### Signs -/

/-- A number is given by its sign and its magnitude. -/
theorem ofMagnitude_magnitude (x : Binary64) :
  ofMagnitude x.isNegative x.magnitude = x
  := by
  obtain ⟨bits⟩ := x
  have small := bits.toNat_lt
  have same : (if isNegative ⟨bits⟩ then signPlace + magnitude ⟨bits⟩ else magnitude ⟨bits⟩)
      = bits.toNat := by
    by_cases negative : signPlace ≤ bits.toNat <;>
      simp [isNegative, magnitude, negative] <;>
      unfold signPlace at * <;>
      omega
  rw [ofMagnitude, same, UInt64.ofNat_toNat]

/-- A finite number is the double nearest to its shortest decimal, or to another form of it. -/
theorem ofDecimal_of_normal_eq {x : Binary64} (finite : x.isFinite) {tie : Tie} {d : Decimal}
    (h : d.normal = (shortest tie x.magnitude).normal) :
  ofDecimal x.isNegative d = x
  := by
  obtain ⟨isNormal, rounded⟩ := shortest_spec tie (of_decide_eq_true finite)
  rw [ofDecimal, h, isNormal, rounded, ofMagnitude_magnitude]

end FilterQuery.Binary64
