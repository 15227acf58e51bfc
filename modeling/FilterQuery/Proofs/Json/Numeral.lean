import FilterQuery.Json.Printer
import FilterQuery.Json.Reader
import FilterQuery.Proofs.Binary64.RoundTrip
import FilterQuery.Proofs.Text.Digits

/-!
# Written numbers read back

A number is written as digits, perhaps with a sign before them, a point and more digits, and an
exponent.  `Numeral.ofWord?` finds these parts again.  The numeral of a whole number or of a finite
double stands for that number.
-/

namespace FilterQuery

/-- A decimal with the zeros that a whole number shows when its places are written out. -/
def Decimal.shown (d : Decimal) : Decimal :=
  if 0 ≤ d.exponent then ⟨d.coefficient * 10 ^ (d.exponent.toNat + 1), -1⟩ else d

/-- A decimal with more zeros is the same number. -/
theorem Decimal.normal_shown (d : Decimal) :
  d.shown.normal = d.normal
  := by
  unfold Decimal.shown
  split
  case isTrue whole =>
    rw [Decimal.normal_mul_pow]
    congr 2
    omega
  case isFalse => rfl

namespace Json

open Text

/-! ### The parts of a numeral -/

/-- The sign of a number. -/
def signText (negative : Bool) : List Char := if negative then ['-'] else []

/-- Decimals after a point, if there are any. -/
def pointText (decimals : List Char) : List Char :=
  if decimals = [] then [] else '.' :: decimals

/-- An exponent after its mark, if there is one. -/
def exponentText : Option Int → List Char
  | none => []
  | some e => 'e' :: (if 0 ≤ e then '+' else '-') :: Nat.toDigits 10 e.natAbs

theorem exponent?_exponentText (exponent : Option Int) :
  Numeral.exponent? (exponentText exponent) = some exponent
  := by
  cases exponent with
  | none => rfl
  | some e =>
    have allDigits : (Nat.toDigits 10 e.natAbs).all Char.isDigit :=
      List.all_eq_true.2 (isDigit_toDigits e.natAbs)
    by_cases h : 0 ≤ e
    · rw [exponentText, if_pos h]
      simp only [Numeral.exponent?, allDigits, Nat.ofDigitChars_ten_toDigits]
      simp [h]
    · rw [exponentText, if_neg h]
      simp only [Numeral.exponent?, allDigits, Nat.ofDigitChars_ten_toDigits]
      simp [abs_of_neg (Int.not_le.1 h)]

theorem head?_exponentText {exponent : Option Int} :
  ∀ c ∈ (exponentText exponent).head?, c.isDigit = false ∧ c ≠ '.'
  := by
  cases exponent <;> simp [exponentText]

theorem decimals?_pointText {decimals : List Char} (exponent : Option Int)
    (h : ∀ c ∈ decimals, c.isDigit) :
  Numeral.decimals? (pointText decimals ++ exponentText exponent)
    = some (decimals, exponentText exponent)
  := by
  by_cases empty : decimals = []
  · rw [empty, pointText, if_pos rfl, List.nil_append]
    cases exponent <;> rfl
  · rw [pointText, if_neg empty, List.cons_append, Numeral.decimals?,
      takeWhile_isDigit h fun c hc => (head?_exponentText c hc).1]
    simp [empty]

/-- The numeral of a sign, digits, decimals and an exponent. -/
theorem ofWord?_append (negative : Bool) (whole decimals : List Char) (exponent : Option Int)
    (wholeDigits : ∀ c ∈ whole, c.isDigit) (nonempty : whole ≠ [])
    (noZero : whole.head? = some '0' → whole = ['0']) (decimalDigits : ∀ c ∈ decimals, c.isDigit) :
  Numeral.ofWord? (signText negative ++ (whole ++ (pointText decimals ++ exponentText exponent)))
    = some
      { isNegative := negative
        decimal := ⟨Nat.ofDigitChars 10 (whole ++ decimals) 0,
          exponent.getD 0 - decimals.length⟩
        isWhole := decimals.isEmpty && exponent.isNone }
  := by
  have ends : ∀ c ∈ (pointText decimals ++ exponentText exponent).head?, c.isDigit = false := by
    intro c hc
    unfold pointText at hc
    split at hc
    · apply (head?_exponentText c hc).1
    · simp at hc
      subst hc
      decide
  have found := takeWhile_isDigit wholeDigits ends
  have decimalsFound := decimals?_pointText exponent decimalDigits
  generalize pointText decimals ++ exponentText exponent = tail at ends found decimalsFound ⊢
  have wholeFound : ¬ (whole = [] ∨ (whole.head? = some '0' ∧ whole ≠ ['0'])) := by
    rintro (empty | ⟨zero, others⟩)
    · apply nonempty empty
    · apply others (noZero zero)
  cases negative with
  | true =>
    rw [signText, if_pos rfl, List.singleton_append, Numeral.ofWord?]
    simp [found, wholeFound, decimalsFound, exponent?_exponentText]
  | false =>
    rw [signText, if_neg (by decide), List.nil_append, Numeral.ofWord?]
    · simp [found, wholeFound, decimalsFound, exponent?_exponentText]
    · -- the digits do not begin with a sign
      intro s h
      obtain ⟨first, others, rfl⟩ := List.exists_cons_of_ne_nil nonempty
      rw [List.cons_append, List.cons.injEq] at h
      have digit := wholeDigits first List.mem_cons_self
      rw [h.1] at digit
      cases digit

/-! ### Whole numbers -/

/-- The numeral of a whole number. -/
def Numeral.ofInt (n : Int) : Numeral := ⟨n < 0, ⟨n.natAbs, 0⟩, true⟩

theorem ofWord?_writeInt (n : Int) :
  Numeral.ofWord? (writeInt n) = some (.ofInt n)
  := by
  have noZero : (Nat.toDigits 10 n.natAbs).head? = some '0' → Nat.toDigits 10 n.natAbs = ['0'] := by
    intro h
    have zero : n.natAbs = 0 := Nat.eq_zero_of_not_pos fun positive => head?_toDigits positive h
    rw [zero]
    rfl
  have word := ofWord?_append (decide (n < 0)) (Nat.toDigits 10 n.natAbs) [] none
    (isDigit_toDigits n.natAbs) Nat.toDigits_ne_nil noZero (List.forall_mem_nil _)
  simpa [signText, pointText, exponentText, writeInt, Numeral.ofInt,
    Nat.ofDigitChars_ten_toDigits] using word

/-- The numeral of a whole number of 64 bits, signed or unsigned, stands for it. -/
theorem ofNumeral?_ofInt {n : Int} (least : -2 ^ 63 ≤ n) (most : n < 2 ^ 64) :
  ofNumeral? (.ofInt n) = some (.int n)
  := by
  unfold ofNumeral? Numeral.ofInt
  by_cases negative : n < 0
  · have bound : 0 < n.natAbs ∧ Int64.minValue.toInt ≤ -(n.natAbs : Int) := by
      rw [Int64.toInt_minValue]
      omega
    rw [if_neg (by simp [negative]), if_pos ⟨rfl, decide_eq_true negative, bound⟩]
    have value : -(n.natAbs : Int) = n := by omega
    rw [value]
  · have bound : n.natAbs < 2 ^ 64 := by omega
    rw [if_pos ⟨rfl, by simpa using Int.not_lt.1 negative, bound⟩]
    have value : (n.natAbs : Int) = n := by omega
    rw [value]

/-! ### Decimals -/

/-- The digits of a decimal stand for its coefficient. -/
theorem ofDigitChars_digits (d : Decimal) :
  Nat.ofDigitChars 10 d.digits 0 = d.coefficient
  := Nat.ofDigitChars_ten_toDigits

/-- The numeral of a whole number with a point. -/
theorem ofWord?_pointed (negative : Bool) {d : Decimal} (whole : 0 ≤ d.exponent)
    (noZero : d.coefficient = 0 → d.exponent = 0) :
  Numeral.ofWord?
      (signText negative ++ (d.digits ++ List.replicate d.exponent.toNat '0' ++ ['.', '0']))
    = some ⟨negative, d.shown, false⟩
  := by
  have places : ∀ c ∈ d.digits ++ List.replicate d.exponent.toNat '0', c.isDigit :=
    List.forall_mem_append.2 ⟨isDigit_toDigits d.coefficient, isDigit_zeros _⟩
  have head : (d.digits ++ List.replicate d.exponent.toNat '0').head? = some '0' →
      d.digits ++ List.replicate d.exponent.toNat '0' = ['0'] := by
    intro h
    rw [Decimal.digits, List.head?_append_of_ne_nil _ Nat.toDigits_ne_nil] at h
    have zero : d.coefficient = 0 :=
      Nat.eq_zero_of_not_pos fun positive => head?_toDigits positive h
    rw [Decimal.digits, zero, noZero zero]
    rfl
  have word := ofWord?_append negative _ ['0'] none places (by simp [Decimal.digits]) head
    (List.forall_mem_singleton.2 rfl)
  rw [pointText, if_neg (by decide), exponentText, List.append_nil] at word
  rw [word, Decimal.shown, if_pos whole, List.append_assoc, Nat.ofDigitChars_append,
    ofDigitChars_digits, ← List.replicate_succ', Nat.ofDigitChars_replicate_zero, Nat.mul_comm]
  rfl

/-- The numeral of a decimal with a point among its digits. -/
theorem ofWord?_split (negative : Bool) {d : Decimal} (h : 0 ≤ d.leadingExponent)
    (fraction : d.exponent < 0) (nonzero : d.coefficient ≠ 0) :
  Numeral.ofWord? (signText negative ++
      (d.digits.take (d.leadingExponent.toNat + 1)
        ++ '.' :: d.digits.drop (d.leadingExponent.toNat + 1)))
    = some ⟨negative, d, false⟩
  := by
  have lead : d.leadingExponent = d.exponent + d.digits.length - 1 := rfl
  have digits := isDigit_toDigits d.coefficient
  generalize place : d.leadingExponent.toNat + 1 = n
  have inside : n < d.digits.length := by omega
  have head : (d.digits.take n).head? = some '0' → d.digits.take n = ['0'] := by
    intro h
    rw [List.head?_take, if_neg (by omega)] at h
    cases head?_toDigits (Nat.pos_of_ne_zero nonzero) h
  have decimals : d.digits.drop n ≠ [] := by simp [inside]
  have word := ofWord?_append negative (d.digits.take n) (d.digits.drop n) none
    (fun c hc => digits c (List.mem_of_mem_take hc)) (by simp [Decimal.digits]; omega) head
    fun c hc => digits c (List.mem_of_mem_drop hc)
  rw [pointText, if_neg decimals, exponentText, List.append_nil] at word
  have exponent : (Option.none.getD 0 : Int) - (d.digits.drop n).length = d.exponent := by
    rw [List.length_drop, Option.getD_none]
    omega
  rw [word, List.take_append_drop, ofDigitChars_digits, exponent]
  simp [decimals]

/-- The numeral of a decimal with all its digits after the point. -/
theorem ofWord?_fraction (negative : Bool) {d : Decimal} (h : d.leadingExponent < 0) :
  Numeral.ofWord? (signText negative ++
      ('0' :: '.' :: List.replicate (-d.leadingExponent - 1).toNat '0' ++ d.digits))
    = some ⟨negative, d, false⟩
  := by
  have lead : d.leadingExponent = d.exponent + d.digits.length - 1 := rfl
  generalize zeros : (-d.leadingExponent - 1).toNat = n
  have decimals : ∀ c ∈ List.replicate n '0' ++ d.digits, c.isDigit :=
    List.forall_mem_append.2 ⟨isDigit_zeros n, isDigit_toDigits d.coefficient⟩
  have word := ofWord?_append negative ['0'] (List.replicate n '0' ++ d.digits) none
    (List.forall_mem_singleton.2 rfl) (List.cons_ne_nil _ _) (fun _ => rfl) decimals
  rw [pointText, if_neg (by simp [Decimal.digits]), exponentText, List.append_nil] at word
  simp only [List.singleton_append] at word
  have exponent : (Option.none.getD 0 : Int) - (List.replicate n '0' ++ d.digits).length
      = d.exponent := by
    rw [List.length_append, List.length_replicate, Option.getD_none]
    omega
  rw [List.cons_append, List.cons_append, word, ← List.cons_append, ← List.replicate_succ,
    ofDigitChars_zeros, ofDigitChars_digits, exponent]
  simp [Decimal.digits]

/-- The numeral of a decimal with an exponent. -/
theorem ofWord?_scientific (negative : Bool) (d : Decimal) :
  Numeral.ofWord? (signText negative ++ d.scientific) = some ⟨negative, d, false⟩
  := by
  have lead : d.leadingExponent = d.exponent + d.digits.length - 1 := rfl
  have value := ofDigitChars_digits d
  have digits : ∀ c ∈ d.digits, c.isDigit := isDigit_toDigits d.coefficient
  have nonempty : d.digits ≠ [] := Nat.toDigits_ne_nil
  unfold Decimal.scientific
  generalize d.leadingExponent = e at lead ⊢
  generalize d.digits = shown at *
  obtain ⟨first, others, rfl⟩ := List.exists_cons_of_ne_nil nonempty
  have word := ofWord?_append negative [first] others (some e)
    (fun c hc => digits c (by simp_all)) (List.cons_ne_nil _ _) (by simp)
    fun c hc => digits c (List.mem_cons_of_mem _ hc)
  have exponent : ((some e).getD 0 : Int) - others.length = d.exponent := by
    rw [List.length_cons] at lead
    simp
    omega
  rw [List.singleton_append, List.singleton_append, value, exponent] at word
  cases others with
  | nil => simpa [pointText, exponentText] using word
  | cons second rest => simpa [pointText, exponentText] using word

/-! ### Doubles -/

/-- The decimal that is spelled when one is written as a double. -/
def spelledDecimal (d : Decimal) : Decimal :=
  if floatStyle.isPositional d.leadingExponent then d.shown else d

theorem ofWord?_write (negative : Bool) {d : Decimal} (h : d.normal = d) :
  Numeral.ofWord? (signText negative ++ d.write floatStyle)
    = some ⟨negative, spelledDecimal d, false⟩
  := by
  have noZero : d.coefficient = 0 → d.exponent = 0 := by
    intro zero
    rw [← h] at zero ⊢
    apply Decimal.exponent_normal_of_zero zero
  unfold Decimal.write spelledDecimal
  by_cases style : floatStyle.isPositional d.leadingExponent
  case neg =>
    rw [if_neg style, if_neg style]
    apply ofWord?_scientific
  case pos =>
    rw [if_pos style, if_pos style, Decimal.positional]
    by_cases whole : 0 ≤ d.exponent
    · rw [if_pos whole]
      apply ofWord?_pointed negative whole noZero
    · have nonzero : d.coefficient ≠ 0 := fun zero => whole (noZero zero).ge
      rw [if_neg whole, Decimal.shown, if_neg whole]
      by_cases lead : 0 ≤ d.leadingExponent
      · rw [if_pos lead]
        apply ofWord?_split negative lead (Int.not_le.1 whole) nonzero
      · rw [if_neg lead]
        apply ofWord?_fraction negative (Int.not_le.1 lead)

/-- The numeral of a finite double. -/
def Numeral.ofFloat (x : Binary64) : Numeral :=
  ⟨x.isNegative, spelledDecimal (Binary64.shortest .toEven x.magnitude), false⟩

theorem ofWord?_writeFloat {x : Binary64} (finite : x.isFinite) :
  Numeral.ofWord? (writeFloat x) = some (.ofFloat x)
  := by
  rw [writeFloat, if_pos finite]
  apply ofWord?_write
  apply (Binary64.shortest_spec .toEven (of_decide_eq_true finite)).1

/-- The numeral of a finite double stands for it. -/
theorem ofNumeral?_ofFloat {x : Binary64} (finite : x.isFinite) :
  ofNumeral? (.ofFloat x) = some (.float x)
  := by
  have same : (spelledDecimal (Binary64.shortest .toEven x.magnitude)).normal
      = (Binary64.shortest .toEven x.magnitude).normal := by
    unfold spelledDecimal
    split
    · apply Decimal.normal_shown
    · rfl
  have value := Binary64.ofDecimal_of_normal_eq finite same
  simp [ofNumeral?, Numeral.ofFloat, value, finite]

end Json

end FilterQuery
