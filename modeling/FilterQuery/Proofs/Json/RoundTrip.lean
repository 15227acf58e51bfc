import FilterQuery.Proofs.Json.Nesting

/-!
# Written values read back

A value is readable when its whole numbers fit 64 bits, its doubles are finite and no object has two
members with one name.  The compact text of a readable value is read as the value, unless arrays
and objects are nested too deep in it.
-/

namespace FilterQuery.Json

mutual

/-- The greatest number of arrays and objects inside each other in a value. -/
def nesting : Json → Nat
  | .null | .bool _ | .int _ | .float _ | .string _ => 0
  | .array items => itemsNesting items + 1
  | .object members => membersNesting members + 1

def itemsNesting : List Json → Nat
  | [] => 0
  | item :: items => max item.nesting (itemsNesting items)

def membersNesting : List (String × Json) → Nat
  | [] => 0
  | (_, value) :: members => max value.nesting (membersNesting members)

end

mutual

/-- The spelling of a value is nested as the value. -/
theorem nesting_spelled (j : Json) :
  j.spelled.nesting = j.nesting
  := by
  match j with
  | .null | .bool _ | .int _ | .string _ => rfl
  | .float x =>
    rw [spelled]
    split <;> rfl
  | .array items => rw [spelled, Spelled.nesting, itemNesting_spelledItems items, nesting]
  | .object members =>
    rw [spelled, Spelled.nesting, memberNesting_spelledMembers members, nesting]

theorem itemNesting_spelledItems (items : List Json) :
  itemNesting (spelledItems items) = itemsNesting items
  := by
  match items with
  | [] => rfl
  | item :: items =>
    rw [spelledItems, itemNesting, nesting_spelled item, itemNesting_spelledItems items,
      itemsNesting]

theorem memberNesting_spelledMembers (members : List (String × Json)) :
  memberNesting (spelledMembers members) = membersNesting members
  := by
  match members with
  | [] => rfl
  | (name, value) :: members =>
    rw [spelledMembers, memberNesting, nesting_spelled value,
      memberNesting_spelledMembers members, membersNesting]

end

/-! ### Strings -/

/-- A control character is no surrogate. -/
theorem join?_ofChar_cons (c : Char) (pieces : List Piece) :
  Piece.join? (.ofChar c :: pieces) = (Piece.join? pieces).map (c :: ·)
  := by
  unfold Piece.ofChar
  split
  case isFalse => rw [Piece.join?]
  case isTrue control =>
    have small := Scan.toNat_lt_of_lt_space control.1
    have notHigh : Piece.isHigh c.toNat = false := by
      simp [Piece.isHigh]
      omega
    have notLow : Piece.isLow c.toNat = false := by
      simp [Piece.isLow]
      omega
    cases pieces with
    | nil => simp [Piece.join?, notHigh, notLow]
    | cons piece rest => cases piece <;> simp [Piece.join?, notHigh, notLow]

/-- The pieces that a string is written as stand for it. -/
theorem string?_map_ofChar (s : String) :
  Piece.string? (s.toList.map Piece.ofChar) = some s
  := by
  have joined (s : List Char) : Piece.join? (s.map Piece.ofChar) = some s := by
    induction s with
    | nil => rfl
    | cons c s ih => rw [List.map_cons, join?_ofChar_cons, ih, Option.map_some]
  rw [Piece.string?, joined, Option.map_some, String.ofList_toList]

/-! ### Readable values -/

/-- A value whose text stands for it. -/
inductive IsReadable : Json → Prop where
  | null : IsReadable .null
  | bool (b : Bool) : IsReadable (.bool b)
  | int {n : Int} (least : -2 ^ 63 ≤ n) (most : n < 2 ^ 64) : IsReadable (.int n)
  | float {x : Binary64} (finite : x.isFinite) : IsReadable (.float x)
  | string (s : String) : IsReadable (.string s)
  | array {items : List Json} (readable : ∀ item ∈ items, IsReadable item) :
    IsReadable (.array items)
  | object {members : List (String × Json)} (distinct : (members.map Prod.fst).Nodup)
      (readable : ∀ member ∈ members, IsReadable member.2) :
    IsReadable (.object members)

theorem lastOfEach_of_nodup {members : List (String × Json)}
    (distinct : (members.map Prod.fst).Nodup) :
  lastOfEach members = members
  := by
  induction members with
  | nil => rfl
  | cons member members ih =>
    obtain ⟨name, value⟩ := member
    rw [List.map_cons, List.nodup_cons] at distinct
    have once : ¬ members.any fun member => member.1 = name := by
      intro again
      obtain ⟨other, hm, same⟩ := List.any_eq_true.1 again
      have listed : other.1 ∈ members.map Prod.fst := List.mem_map_of_mem hm
      rw [of_decide_eq_true same] at listed
      apply distinct.1 listed
    rw [lastOfEach, if_neg once, ih distinct.2]

theorem ofItems?_spelledItems {items : List Json}
    (h : ∀ item ∈ items, ofSpelled? item.spelled = some item) :
  ofItems? (spelledItems items) = some items
  := by
  induction items with
  | nil => rfl
  | cons item items ih =>
    rw [spelledItems, ofItems?, h item List.mem_cons_self,
      ih fun item hi => h item (List.mem_cons_of_mem _ hi)]
    rfl

theorem ofMembers?_spelledMembers {members : List (String × Json)}
    (h : ∀ member ∈ members, ofSpelled? member.2.spelled = some member.2) :
  ofMembers? (spelledMembers members) = some members
  := by
  induction members with
  | nil => rfl
  | cons member members ih =>
    obtain ⟨name, value⟩ := member
    have first : ofSpelled? value.spelled = some value := h _ List.mem_cons_self
    rw [spelledMembers, ofMembers?, string?_map_ofChar, first,
      ih fun member hm => h member (List.mem_cons_of_mem _ hm)]
    rfl

/-- The spelling of a readable value stands for it. -/
theorem ofSpelled?_spelled {j : Json} (h : j.IsReadable) :
  ofSpelled? j.spelled = some j
  := by
  induction h with
  | null | bool => rfl
  | int least most => apply ofNumeral?_ofInt least most
  | float finite =>
    rw [spelled, if_pos finite]
    apply ofNumeral?_ofFloat finite
  | string s => rw [spelled, ofSpelled?, string?_map_ofChar, Option.map_some]
  | array _ ih => rw [spelled, ofSpelled?, ofItems?_spelledItems ih, Option.map_some]
  | object distinct _ ih =>
    rw [spelled, ofSpelled?, ofMembers?_spelledMembers ih, Option.map_some,
      lastOfEach_of_nodup distinct]

/-- Without a limit, the text of a value is read as its spelling. -/
theorem readSpelled?_write (j : Json) :
  Spelled.read? none j.write.toList = some j.spelled
  := by
  rw [Spelled.read?, write, String.toList_ofList, scan?_writeBefore, Option.bind_some,
    ofTokens?_tokens]
  rfl

/-- Readable values with the same text are the same. -/
theorem eq_of_write_eq {j k : Json} (hj : j.IsReadable) (hk : k.IsReadable)
    (h : j.write = k.write) :
  j = k
  := by
  have spelled : j.spelled = k.spelled := by
    rw [← Option.some_inj, ← readSpelled?_write, h, readSpelled?_write]
  rw [← Option.some_inj, ← ofSpelled?_spelled hj, spelled, ofSpelled?_spelled hk]

/-- The text of a readable value is read as the value exactly when it is not nested too deep. -/
theorem read?_write {j : Json} (h : j.IsReadable) :
  read? j.write = if j.nesting ≤ maxNesting then some j else none
  := by
  have within : Expecting.fits (some maxNesting) j.nesting = decide (j.nesting ≤ maxNesting) := rfl
  rw [read?, readWithin?, Spelled.read?, write, String.toList_ofList, scan?_writeBefore,
    Option.bind_some, ofTokens?_tokens, nesting_spelled, within]
  by_cases shallow : j.nesting ≤ maxNesting
  · simp [shallow, ofSpelled?_spelled h]
  · simp [shallow]

end FilterQuery.Json
