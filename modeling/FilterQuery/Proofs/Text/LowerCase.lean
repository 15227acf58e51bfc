import FilterQuery.Filter.Kind
import FilterQuery.Text.LowerCase

/-!
# Lower case of whole texts

A text in lower case is its own lower case: no character of it has another lower case, and the
capital sigma, of which the neighbours decide, does not occur.  And the case of ASCII letters is not
seen in the lower case of a text, whatever other characters stand around them.
-/

namespace FilterQuery.Text

/-! ### The lower case of a code point -/

/-- A code point is its own lower case, or it lies in a run. -/
theorem lowerIn_eq_or (n : Nat) (runs : List (Nat × Nat × Nat × Nat)) :
  lowerIn n runs = n
    ∨ ∃ first last step target, (first, last, step, target) ∈ runs ∧ first ≤ n ∧ n ≤ last
      ∧ (n - first) % step = 0 ∧ lowerIn n runs = target + (n - first)
  := by
  induction runs with
  | nil => exact .inl rfl
  | cons run rest ih =>
    obtain ⟨first, last, step, target⟩ := run
    rw [lowerIn]
    split
    case isTrue => exact .inl rfl
    case isFalse notBelow =>
      split
      case isTrue inside =>
        rw [Bool.and_eq_true, decide_eq_true_eq, beq_iff_eq] at inside
        exact .inr ⟨first, last, step, target, List.mem_cons_self, Nat.le_of_not_lt notBelow,
          inside.1, inside.2, rfl⟩
      case isFalse =>
        rcases ih with own | ⟨first', last', step', target', member, found⟩
        · exact .inl own
        · exact .inr ⟨first', last', step', target', List.mem_cons_of_mem _ member, found⟩

/-- Whether runs avoid the code points from `low` to `high`, or only every other one of them.  A run
of every other code point avoids those between. -/
def avoids (low high : Nat) (alternate : Bool) : List (Nat × Nat × Nat × Nat) → Bool
  | [] => true
  | (first, last, step, _) :: rest =>
    Nat.blt high first ||
      (Nat.blt last low || alternate && Nat.beq step 2 && Nat.beq ((low + first) % 2) 1) &&
        avoids low high alternate rest

theorem lowerIn_of_avoids {low high : Nat} {alternate : Bool}
    {runs : List (Nat × Nat × Nat × Nat)} (h : avoids low high alternate runs) {i : Nat}
    (inside : low + i ≤ high) (even : alternate → i % 2 = 0) :
  lowerIn (low + i) runs = low + i
  := by
  induction runs with
  | nil => rfl
  | cons run rest ih =>
    obtain ⟨first, last, step, target⟩ := run
    simp only [avoids, Bool.or_eq_true, Bool.and_eq_true, Nat.blt_eq, Nat.beq_eq] at h
    rw [lowerIn]
    split
    case isTrue => rfl
    case isFalse notBelow =>
      rcases h with above | ⟨apart, others⟩
      · omega
      have outside : ¬ (low + i ≤ last ∧ (low + i - first) % step = 0) := by
        rcases apart with below | ⟨⟨isAlternate, rfl⟩, odd⟩
        · omega
        · have := even isAlternate
          omega
      rw [if_neg, ih others]
      simpa using outside

/-- No lower case in the table has another one. -/
theorem avoids_lowerCaseRuns :
  (lowerCaseRuns.all fun (first, last, step, target) =>
    avoids target (target + (last - first)) (Nat.beq step 2 || Nat.beq first last) lowerCaseRuns)
    = true
  := by
  decide +kernel

/-- All lower cases in the table are characters, and none of them is the capital I with a dot. -/
theorem targets_lowerCaseRuns :
  ∀ run ∈ lowerCaseRuns,
    let high := run.2.2.2 + (run.2.1 - run.1)
    (high < 0xD800 ∨ 0xDFFF < run.2.2.2 ∧ high < 0x110000)
      ∧ (high < 0x130 ∨ 0x130 < run.2.2.2)
  := by
  decide +kernel

theorem lowerIn_lowerIn (n : Nat) :
  lowerIn (lowerIn n lowerCaseRuns) lowerCaseRuns = lowerIn n lowerCaseRuns
  := by
  rcases lowerIn_eq_or n lowerCaseRuns with
    own | ⟨first, last, step, target, member, above, below, place, found⟩
  · rw [own, own]
  · have apart := List.all_eq_true.1 avoids_lowerCaseRuns _ member
    rw [found]
    apply lowerIn_of_avoids apart
    · omega
    · intro alternate
      rw [Bool.or_eq_true, Nat.beq_eq, Nat.beq_eq] at alternate
      rcases alternate with rfl | same
      · apply place
      · omega

/-- The lower case of a character is a character, and not the capital I with a dot. -/
theorem isValidChar_lowerIn (c : Char) :
  (lowerIn c.toNat lowerCaseRuns).isValidChar
    ∧ (c ≠ '\u0130' → lowerIn c.toNat lowerCaseRuns ≠ 0x130)
  := by
  rcases lowerIn_eq_or c.toNat lowerCaseRuns with
    own | ⟨first, last, step, target, member, above, below, place, found⟩
  · rw [own]
    refine ⟨c.valid, fun different same => different ?_⟩
    rw [← Char.ofNat_toNat c, same]
  · obtain ⟨valid, different⟩ := targets_lowerCaseRuns _ member
    simp only at valid different
    rw [found, Nat.isValidChar]
    constructor
    · omega
    · omega

/-! ### Texts in lower case -/

/-- Whether a character stays as it is in lower case, wherever it stands. -/
def IsLower (c : Char) : Prop := c ≠ 'Σ' ∧ lowerChar c = [c]

instance (c : Char) : Decidable (IsLower c) := inferInstanceAs (Decidable (_ ∧ _))

theorem isLower_of_mem_lowerChar {c d : Char} (h : d ∈ lowerChar c) :
  IsLower d
  := by
  rw [lowerChar] at h
  split at h
  case isTrue =>
    have lower : IsLower 'i' ∧ IsLower '\u0307' := by decide +kernel
    rcases List.mem_cons.1 h with rfl | h
    · apply lower.1
    · rw [List.mem_singleton.1 h]
      apply lower.2
  case isFalse different =>
    obtain rfl := List.mem_singleton.1 h
    obtain ⟨valid, notDotted⟩ := isValidChar_lowerIn c
    have number : (Char.ofNat (lowerIn c.toNat lowerCaseRuns)).toNat
        = lowerIn c.toNat lowerCaseRuns := by
      rw [Char.ofNat, dif_pos valid]
      rfl
    constructor
    · intro sigma
      -- The capital sigma has another lower case, so it is not a lower case itself.
      have twice := lowerIn_lowerIn c.toNat
      rw [← number, sigma] at twice
      revert twice
      decide +kernel
    · rw [lowerChar, if_neg, number, lowerIn_lowerIn]
      intro dotted
      apply notDotted different
      rw [← number, dotted]
      rfl

theorem isLower_of_mem_lowerAfter {before s : List Char} {c : Char} (h : c ∈ lowerAfter before s) :
  IsLower c
  := by
  induction s generalizing before with
  | nil => cases h
  | cons d rest ih =>
    rw [lowerAfter, List.mem_append] at h
    rcases h with here | later
    · have sigmas : IsLower 'ς' ∧ IsLower 'σ' := by decide +kernel
      split at here
      · split at here
        · rw [List.mem_singleton.1 here]
          apply sigmas.1
        · rw [List.mem_singleton.1 here]
          apply sigmas.2
      · apply isLower_of_mem_lowerChar here
    · apply ih later

theorem lowerAfter_of_isLower {before s : List Char} (h : ∀ c ∈ s, IsLower c) :
  lowerAfter before s = s
  := by
  induction s generalizing before with
  | nil => rfl
  | cons c rest ih =>
    obtain ⟨notSigma, own⟩ := h c List.mem_cons_self
    rw [lowerAfter, if_neg notSigma, own, ih fun d hd => h d (List.mem_cons_of_mem _ hd)]
    rfl

/-- The lower case of a text is its own lower case. -/
theorem lowerCase_lowerCase (s : String) :
  lowerCase (lowerCase s) = lowerCase s
  := by
  rw [lowerCase, lowerCase, String.toList_ofList,
    lowerAfter_of_isLower fun _ => isLower_of_mem_lowerAfter]

/-! ### The case of ASCII letters -/

/-- A character that is not in small letters is one of the capital letters of ASCII. -/
theorem exists_of_toLower_ne {c : Char} (h : c.toLower ≠ c) :
  ∃ i < 26, c = Char.ofNat (0x41 + i)
  := by
  by_cases capital : 0x41 ≤ c.toNat ∧ c.toNat ≤ 0x5A
  · refine ⟨c.toNat - 0x41, by omega, ?_⟩
    rw [Nat.add_sub_cancel' capital.1, Char.ofNat_toNat]
  · apply absurd _ h
    apply dif_neg
    simpa [UInt32.le_iff_toNat_le] using capital

/-- What lower case sees of a character is not changed by making it an ASCII small letter. -/
theorem seen_toLower (c : Char) :
  (c.toLower = 'Σ' ↔ c = 'Σ') ∧ lowerChar c.toLower = lowerChar c
    ∧ isCased c.toLower = isCased c ∧ isCaseIgnorable c.toLower = isCaseIgnorable c
  := by
  by_cases h : c.toLower = c
  · rw [h]
    exact ⟨Iff.rfl, rfl, rfl, rfl⟩
  · obtain ⟨i, small, rfl⟩ := exists_of_toLower_ne h
    -- There are 26 letters left, which are neither sigmas nor differ in these properties.
    revert i
    decide

theorem startsCased_map_toLower (s : List Char) :
  startsCased (s.map Char.toLower) = startsCased s
  := by
  induction s with
  | nil => rfl
  | cons c rest ih =>
    obtain ⟨-, -, cased, ignorable⟩ := seen_toLower c
    unfold startsCased at ih ⊢
    rw [List.map_cons, List.dropWhile_cons, List.dropWhile_cons, ignorable]
    cases isCaseIgnorable c with
    | true => apply ih
    | false => apply cased

theorem lowerAfter_map_toLower (before s : List Char) :
  lowerAfter (before.map Char.toLower) (s.map Char.toLower) = lowerAfter before s
  := by
  induction s generalizing before with
  | nil => rfl
  | cons c rest ih =>
    obtain ⟨sigma, lower, -, -⟩ := seen_toLower c
    rw [List.map_cons, lowerAfter, lowerAfter, startsCased_map_toLower, startsCased_map_toLower,
      lower, ← List.map_cons, ih]
    simp only [sigma]

/-- Texts that are the same up to the case of ASCII letters have the same lower case. -/
theorem lowerCase_eq_of_sameIgnoringCase {s t : String} (h : sameIgnoringCase s t) :
  lowerCase s = lowerCase t
  := by
  have letters : s.toList.map Char.toLower = t.toList.map Char.toLower := by
    simpa [sameIgnoringCase] using h
  rw [lowerCase, lowerCase, ← lowerAfter_map_toLower, letters, lowerAfter_map_toLower]

end FilterQuery.Text
