import FilterQuery.Text.Ranges

/-!
# Blank characters

The characters with the Unicode property White_Space.  They are more than those of
`Char.isWhitespace`, which knows ASCII only.
-/

namespace FilterQuery.Text

/-- The ranges of White_Space. -/
def blankRanges : List (Nat × Nat) := [
  (0x9, 0xD), (0x20, 0x20), (0x85, 0x85), (0xA0, 0xA0), (0x1680, 0x1680), (0x2000, 0x200A),
  (0x2028, 0x2029), (0x202F, 0x202F), (0x205F, 0x205F), (0x3000, 0x3000)]

/-- Whether a character is blank. -/
def isBlank (c : Char) : Bool := inRanges c.toNat blankRanges

/-- A text without the blanks it begins with. -/
def skipBlanks (s : List Char) : List Char := s.dropWhile isBlank

theorem length_skipBlanks_le (s : List Char) :
  (skipBlanks s).length ≤ s.length
  := by
  induction s with
  | nil => simp [skipBlanks]
  | cons c r ih =>
    unfold skipBlanks at *
    rw [List.dropWhile_cons]
    split
    · exact Nat.le_succ_of_le ih
    · exact Nat.le_refl _

end FilterQuery.Text
