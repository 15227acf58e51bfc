import FilterQuery.Proofs.Json.Scan

/-!
# Reading tokens within a limit

The nesting of a value is the greatest number of arrays and objects inside each other in it.  A
reader that expects a value and comes to the tokens of a spelling has read that spelling after them,
unless the stack would become higher than the limit.
-/

namespace FilterQuery.Json

mutual

/-- The greatest number of arrays and objects inside each other in a spelling. -/
def Spelled.nesting : Spelled → Nat
  | .null | .bool _ | .numeral _ | .string _ => 0
  | .array items => itemNesting items + 1
  | .object members => memberNesting members + 1

def itemNesting : List Spelled → Nat
  | [] => 0
  | item :: items => max item.nesting (itemNesting items)

def memberNesting : List (List Piece × Spelled) → Nat
  | [] => 0
  | (_, value) :: members => max value.nesting (memberNesting members)

end

namespace Expecting

/-- The value of tokens that a reader goes on with. -/
def run (limit : Option Nat) (expecting : Expecting) (tokens : List Token) : Option Spelled :=
  (tokens.foldlM (step limit) expecting).bind finish?

theorem run_cons (limit : Option Nat) (expecting : Expecting) (token : Token)
    (tokens : List Token) :
  run limit expecting (token :: tokens)
    = (step limit expecting token).bind fun next => run limit next tokens
  := by
  unfold run
  rw [List.foldlM_cons]
  cases step limit expecting token <;> rfl

/-- Whether a stack may become as high as `n`. -/
def fits (limit : Option Nat) (n : Nat) : Bool := limit.all fun most => n ≤ most

theorem mayOpen_eq (limit : Option Nat) (stack : List Frame) :
  mayOpen limit stack = fits limit (stack.length + 1)
  := by
  cases limit <;> rfl

theorem fits_of_le {limit : Option Nat} {m n : Nat} (h : m ≤ n) (high : fits limit n) :
  fits limit m
  := by
  cases limit with
  | none => rfl
  | some most => apply decide_eq_true (h.trans (of_decide_eq_true high))

theorem fits_max (limit : Option Nat) (k m n : Nat) :
  fits limit (k + max m n) = (fits limit (k + m) && fits limit (k + n))
  := by
  cases limit with
  | none => rfl
  | some most =>
    rw [Bool.eq_iff_iff]
    simp [fits]
    omega

/-- A value begins with a token that does not end an array. -/
theorem tokens_eq_cons (spelled : Spelled) :
  ∃ first rest, spelled.tokens = first :: rest ∧ first ≠ .closeArray
  := by
  cases spelled with
  | _ =>
    rw [Spelled.tokens]
    exact ⟨_, _, rfl, by simp⟩

/-- The tokens of the first item stand first among those of the items. -/
theorem itemTokens_cons (item : Spelled) (items : List Spelled) :
  ∃ rest, itemTokens (item :: items) = item.tokens ++ rest
  := by
  cases items with
  | nil => exact ⟨[], by rw [itemTokens, List.append_nil]⟩
  | cons next items => exact ⟨_, rfl⟩

/-- Where an array may end, its first item is read as the others. -/
theorem run_firstItem (limit : Option Nat) (stack : List Frame) (item : Spelled)
    (items : List Spelled) (tokens : List Token) :
  run limit (.firstItem (.array [] :: stack)) (itemTokens (item :: items) ++ tokens)
    = run limit (.value (.array [] :: stack)) (itemTokens (item :: items) ++ tokens)
  := by
  obtain ⟨others, same⟩ := itemTokens_cons item items
  obtain ⟨first, rest, same', notClose⟩ := tokens_eq_cons item
  rw [same, same', List.cons_append, List.cons_append, run_cons, run_cons]
  cases first with
  | closeArray => cases notClose rfl
  | _ => rfl

/-- Where an object may end, its first name is read as the others. -/
theorem run_firstName (limit : Option Nat) (stack : List Frame) (member : List Piece × Spelled)
    (members : List (List Piece × Spelled)) (tokens : List Token) :
  run limit (.firstName stack) (memberTokens (member :: members) ++ tokens)
    = run limit (.name stack []) (memberTokens (member :: members) ++ tokens)
  := by
  cases members <;> rfl

theorem run_openArray (limit : Option Nat) (stack : List Frame) (tokens : List Token) :
  run limit (.value stack) (.openArray :: tokens)
    = if fits limit (stack.length + 1) then run limit (.firstItem (.array [] :: stack)) tokens
      else none
  := by
  rw [run_cons, ← mayOpen_eq, step, stepValue]
  split <;> rfl

theorem run_openObject (limit : Option Nat) (stack : List Frame) (tokens : List Token) :
  run limit (.value stack) (.openObject :: tokens)
    = if fits limit (stack.length + 1) then run limit (.firstName stack) tokens else none
  := by
  rw [run_cons, ← mayOpen_eq, step, stepValue]
  split <;> rfl

mutual

/-- A reader that expects a value reads a spelling if the stack does not become too high. -/
theorem run_tokens {limit : Option Nat} (spelled : Spelled) {stack : List Frame}
    (height : fits limit stack.length) (rest : List Token) :
  run limit (.value stack) (spelled.tokens ++ rest)
    = if fits limit (stack.length + spelled.nesting) then run limit (.after stack spelled) rest
      else none
  := by
  match spelled with
  | .null | .bool _ | .numeral _ | .string _ =>
    rw [Spelled.nesting, Nat.add_zero, if_pos height]
    rfl
  | .array [] =>
    rw [Spelled.tokens, List.cons_append, run_openArray]
    rfl
  | .object [] =>
    rw [Spelled.tokens, List.cons_append, run_openObject]
    rfl
  | .array (item :: items) =>
    have nested : stack.length + (Spelled.array (item :: items)).nesting
        = stack.length + 1 + itemNesting (item :: items) := by
      rw [Spelled.nesting, Nat.add_right_comm, Nat.add_assoc]
    rw [Spelled.tokens, List.cons_append, run_openArray, List.append_assoc, run_firstItem, nested]
    by_cases opens : fits limit (stack.length + 1)
    · rw [if_pos opens]
      apply run_itemTokens item items opens
    · rw [if_neg opens, if_neg fun high => opens (fits_of_le (Nat.le_add_right _ _) high)]
  | .object (member :: members) =>
    have nested : stack.length + (Spelled.object (member :: members)).nesting
        = stack.length + 1 + memberNesting (member :: members) := by
      rw [Spelled.nesting, Nat.add_right_comm, Nat.add_assoc]
    rw [Spelled.tokens, List.cons_append, run_openObject, List.append_assoc, run_firstName, nested]
    by_cases opens : fits limit (stack.length + 1)
    · rw [if_pos opens]
      apply run_memberTokens member members opens
    · rw [if_neg opens, if_neg fun high => opens (fits_of_le (Nat.le_add_right _ _) high)]
termination_by sizeOf spelled

/-- A reader that expects another item of an array reads the items that are left. -/
theorem run_itemTokens {limit : Option Nat} (item : Spelled) (items : List Spelled)
    {stack : List Frame} (height : fits limit (stack.length + 1)) (read : List Spelled)
    (rest : List Token) :
  run limit (.value (.array read :: stack)) (itemTokens (item :: items) ++ .closeArray :: rest)
    = if fits limit (stack.length + 1 + itemNesting (item :: items)) then
        run limit (.after stack (.array (read.reverse ++ item :: items))) rest
      else none
  := by
  have first (tokens : List Token) :
      run limit (.value (.array read :: stack)) (item.tokens ++ tokens)
        = if fits limit (stack.length + 1 + item.nesting) then
            run limit (.after (.array read :: stack) item) tokens
          else none :=
    run_tokens item height tokens
  match items with
  | [] =>
    rw [itemTokens, first, run_cons, itemNesting, itemNesting, Nat.max_zero]
    simp [step, stepAfter]
  | next :: items =>
    rw [itemTokens, List.append_assoc, first, List.cons_append, run_cons, itemNesting, fits_max]
    simp only [step, stepAfter, Option.bind_some]
    rw [run_itemTokens next items height]
    simp [ite_and]
termination_by sizeOf (item :: items)

/-- A reader that expects another name of an object reads the members that are left. -/
theorem run_memberTokens {limit : Option Nat} (member : List Piece × Spelled)
    (members : List (List Piece × Spelled)) {stack : List Frame}
    (height : fits limit (stack.length + 1)) (read : List (List Piece × Spelled))
    (rest : List Token) :
  run limit (.name stack read) (memberTokens (member :: members) ++ .closeObject :: rest)
    = if fits limit (stack.length + 1 + memberNesting (member :: members)) then
        run limit (.after stack (.object (read.reverse ++ member :: members))) rest
      else none
  := by
  obtain ⟨name, value⟩ := member
  have first (tokens : List Token) :
      run limit (.value (.object read name :: stack)) (value.tokens ++ tokens)
        = if fits limit (stack.length + 1 + value.nesting) then
            run limit (.after (.object read name :: stack) value) tokens
          else none :=
    run_tokens value height tokens
  match members with
  | [] =>
    rw [memberTokens, List.cons_append, List.cons_append, run_cons]
    simp only [step, Option.bind_some, run_cons]
    rw [first, run_cons, memberNesting, memberNesting, Nat.max_zero]
    simp [step, stepAfter]
  | next :: members =>
    rw [memberTokens, List.cons_append, List.cons_append, run_cons]
    simp only [step, Option.bind_some, run_cons]
    rw [List.append_assoc, first, List.cons_append, run_cons, memberNesting, fits_max]
    simp only [step, stepAfter, Option.bind_some]
    rw [run_memberTokens next members height]
    simp [ite_and]
termination_by sizeOf (member :: members)

end

end Expecting

/-- The tokens of a spelling are read as that spelling if it is not nested too deep. -/
theorem ofTokens?_tokens (limit : Option Nat) (spelled : Spelled) :
  Spelled.ofTokens? limit spelled.tokens
    = if Expecting.fits limit spelled.nesting then some spelled else none
  := by
  have bottom : Expecting.fits limit ([] : List Frame).length := by
    cases limit <;> simp [Expecting.fits]
  have read := Expecting.run_tokens spelled bottom []
  rw [List.append_nil, List.length_nil, Nat.zero_add] at read
  apply read

end FilterQuery.Json
