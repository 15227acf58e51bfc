/-!
# Ranges of code points

A class of characters is given by the ranges of code points it consists of, both ends included,
in ascending order.  `inRanges` looks a code point up, and gives up at the first range that lies
above it.
-/

namespace FilterQuery.Text

/-- Whether a code point lies in one of the ranges. -/
def inRanges (n : Nat) : List (Nat × Nat) → Bool
  | [] => false
  | (first, last) :: rest => if n < first then false else n ≤ last || inRanges n rest

@[simp]
theorem inRanges_nil (n : Nat) :
  inRanges n [] = false
  := rfl

theorem inRanges_cons_of_lt {n first last : Nat} {rest : List (Nat × Nat)} (h : n < first) :
  inRanges n ((first, last) :: rest) = false
  := by
  simp [inRanges, h]

theorem inRanges_cons_of_le {n first last : Nat} {rest : List (Nat × Nat)} (h : first ≤ n) :
  inRanges n ((first, last) :: rest) = (n ≤ last || inRanges n rest)
  := by
  simp [inRanges, Nat.not_lt.mpr h]

end FilterQuery.Text
