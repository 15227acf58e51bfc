import FilterQuery.Proofs.Json.RoundTrip

/-!
# What can be read

A value that was read from a text is readable, and arrays and objects are nested in it no deeper
than the limit allows; so the values of texts are exactly those whose compact text is read.  The
reader of tokens keeps what it has read below the limit, counting the arrays and objects that are
still open.
-/

namespace FilterQuery.Json

/-! ### Nesting of lists -/

theorem itemNesting_le_iff {items : List Spelled} {n : Nat} :
  itemNesting items ≤ n ↔ ∀ item ∈ items, item.nesting ≤ n
  := by
  induction items with
  | nil => simp [itemNesting]
  | cons item items ih => simp [itemNesting, ih]

theorem memberNesting_le_iff {members : List (List Piece × Spelled)} {n : Nat} :
  memberNesting members ≤ n ↔ ∀ member ∈ members, member.2.nesting ≤ n
  := by
  induction members with
  | nil => simp [memberNesting]
  | cons member members ih => simp [memberNesting, ih]

theorem itemNesting_reverse (items : List Spelled) :
  itemNesting items.reverse = itemNesting items
  := by
  apply Nat.le_antisymm
  · rw [itemNesting_le_iff]
    intro item listed
    apply itemNesting_le_iff.1 (Nat.le_refl _) item (List.mem_reverse.1 listed)
  · rw [itemNesting_le_iff]
    intro item listed
    apply itemNesting_le_iff.1 (Nat.le_refl _) item (List.mem_reverse.2 listed)

theorem memberNesting_reverse (members : List (List Piece × Spelled)) :
  memberNesting members.reverse = memberNesting members
  := by
  apply Nat.le_antisymm
  · rw [memberNesting_le_iff]
    intro member listed
    apply memberNesting_le_iff.1 (Nat.le_refl _) member (List.mem_reverse.1 listed)
  · rw [memberNesting_le_iff]
    intro member listed
    apply memberNesting_le_iff.1 (Nat.le_refl _) member (List.mem_reverse.2 listed)

/-! ### The reader of tokens -/

/-- The nesting of what was read of an open array or object. -/
def Frame.nesting : Frame → Nat
  | .array items => itemNesting items
  | .object members _ => memberNesting members

/-- Whether what was read of open arrays and objects is within a limit. -/
def StackFits (limit : Nat) : List Frame → Prop
  | [] => True
  | frame :: stack => stack.length + 1 + frame.nesting ≤ limit ∧ StackFits limit stack

theorem length_le_of_stackFits {limit : Nat} {stack : List Frame} (h : StackFits limit stack) :
  stack.length ≤ limit
  := by
  cases stack with
  | nil => apply Nat.zero_le
  | cons frame stack => apply Nat.le_trans (Nat.le_add_right _ _) h.1

namespace Expecting

/-- Whether what a reader has read is within a limit. -/
def Fits (limit : Nat) : Expecting → Prop
  | .value stack => StackFits limit stack
  | .firstItem stack => StackFits limit stack
  | .firstName stack => stack.length + 1 ≤ limit ∧ StackFits limit stack
  | .name stack members => stack.length + 1 + memberNesting members ≤ limit ∧ StackFits limit stack
  | .colon stack members _ =>
    stack.length + 1 + memberNesting members ≤ limit ∧ StackFits limit stack
  | .after stack result => stack.length + result.nesting ≤ limit ∧ StackFits limit stack

variable {limit : Nat} {stack : List Frame} {expecting next : Expecting} {token : Token}

theorem fits_of_stepValue (fits : StackFits limit stack)
    (h : stepValue (some limit) stack token = some next) :
  next.Fits limit
  := by
  have low := length_le_of_stackFits fits
  cases token with
  | null | bool b | numeral n | string pieces =>
    cases h
    exact ⟨low, fits⟩
  | openArray | openObject =>
    rw [stepValue] at h
    split at h
    · next opens =>
      cases h
      exact ⟨of_decide_eq_true opens, fits⟩
    · cases h
  | _ => cases h

theorem fits_of_stepAfter {result : Spelled} (low : stack.length + result.nesting ≤ limit)
    (fits : StackFits limit stack) (h : stepAfter stack result token = some next) :
  next.Fits limit
  := by
  unfold stepAfter at h
  split at h
  case h_5 => cases h
  -- What was read of the innermost frame is within the limit, and so is the result that joins it.
  all_goals
    cases h
    have below := fits.1
    rw [Frame.nesting] at below
    rw [List.length_cons] at low
    refine ⟨?_, fits.2⟩
    simp only [Frame.nesting, Spelled.nesting, itemNesting_reverse, memberNesting_reverse,
      itemNesting, memberNesting]
    omega

/-- A token that may stand where it does leaves a reader within the limit. -/
theorem fits_of_step (fits : expecting.Fits limit)
    (h : step (some limit) expecting token = some next) :
  next.Fits limit
  := by
  unfold step at h
  split at h
  case h_2 | h_3 => apply fits_of_stepValue fits h
  case h_8 => apply fits_of_stepAfter fits.1 fits.2 h
  case h_9 => cases h
  -- The token is a bracket, a name or a colon, and nothing is added to what was read.
  all_goals
    cases h
    exact fits

/-- A reader stays within the limit. -/
theorem fits_of_foldlM {tokens : List Token} (fits : expecting.Fits limit)
    (h : tokens.foldlM (step (some limit)) expecting = some next) :
  next.Fits limit
  := by
  induction tokens generalizing expecting with
  | nil =>
    cases h
    exact fits
  | cons token tokens ih =>
    obtain ⟨middle, stepped, rest⟩ := Option.bind_eq_some_iff.1 h
    apply ih (fits_of_step fits stepped) rest

end Expecting

/-- What tokens spell is nested within the limit. -/
theorem nesting_le_of_ofTokens? {limit : Nat} {tokens : List Token} {spelled : Spelled}
    (h : Spelled.ofTokens? (some limit) tokens = some spelled) :
  spelled.nesting ≤ limit
  := by
  obtain ⟨expecting, run, finished⟩ := Option.bind_eq_some_iff.1 h
  have start : (Expecting.value []).Fits limit := trivial
  have fits := Expecting.fits_of_foldlM start run
  unfold Expecting.finish? at finished
  split at finished
  · cases finished
    apply (Nat.zero_add _).symm.trans_le fits.1
  · cases finished

/-! ### What spellings stand for -/

theorem itemsNesting_le_iff {items : List Json} {n : Nat} :
  itemsNesting items ≤ n ↔ ∀ item ∈ items, item.nesting ≤ n
  := by
  induction items with
  | nil => simp [itemsNesting]
  | cons item items ih => simp [itemsNesting, ih]

theorem membersNesting_le_iff {members : List (String × Json)} {n : Nat} :
  membersNesting members ≤ n ↔ ∀ member ∈ members, member.2.nesting ≤ n
  := by
  induction members with
  | nil => simp [membersNesting]
  | cons member members ih => simp [membersNesting, ih]

/-- The value of a numeral is a number in range. -/
theorem isReadable_of_ofNumeral? {n : Numeral} {j : Json} (h : ofNumeral? n = some j) :
  j.IsReadable ∧ j.nesting = 0
  := by
  simp only [ofNumeral?] at h
  split at h
  · next whole =>
    cases h
    have most : n.decimal.coefficient < 2 ^ 64 := whole.2.2
    exact ⟨.int (by omega) (by omega), rfl⟩
  · split at h
    · next whole =>
      cases h
      have least : (-2 ^ 63 : Int) ≤ -(n.decimal.coefficient : Int) := whole.2.2.2
      exact ⟨.int least (by omega), rfl⟩
    · split at h
      · next finite =>
        cases h
        exact ⟨.float finite, rfl⟩
      · cases h

/-- Of members with one name the last are members. -/
theorem lastOfEach_sublist (members : List (String × Json)) :
  (lastOfEach members).Sublist members
  := by
  induction members with
  | nil => exact .slnil
  | cons member members ih =>
    rw [lastOfEach]
    split
    · exact ih.cons _
    · exact ih.cons_cons _

/-- The last of the members with one name are one for each name. -/
theorem nodup_lastOfEach (members : List (String × Json)) :
  ((lastOfEach members).map Prod.fst).Nodup
  := by
  induction members with
  | nil => exact .nil
  | cons member members ih =>
    obtain ⟨name, value⟩ := member
    rw [lastOfEach]
    split
    · exact ih
    · next once =>
      rw [List.map_cons, List.nodup_cons]
      refine ⟨?_, ih⟩
      intro again
      obtain ⟨other, listed, same⟩ := List.mem_map.1 again
      apply once
      rw [List.any_eq_true]
      exact ⟨other, (lastOfEach_sublist members).subset listed, decide_eq_true same⟩

mutual

/-- What a spelling stands for is readable and nested no deeper than it. -/
theorem isReadable_of_ofSpelled? (spelled : Spelled) {j : Json}
    (h : ofSpelled? spelled = some j) :
  j.IsReadable ∧ j.nesting ≤ spelled.nesting
  := by
  match spelled with
  | .null =>
    cases h
    exact ⟨.null, Nat.le_refl _⟩
  | .bool b =>
    cases h
    exact ⟨.bool b, Nat.le_refl _⟩
  | .numeral n =>
    obtain ⟨readable, flat⟩ := isReadable_of_ofNumeral? h
    exact ⟨readable, flat.le⟩
  | .string pieces =>
    obtain ⟨s, -, rfl⟩ := Option.map_eq_some_iff.1 h
    exact ⟨.string s, Nat.le_refl _⟩
  | .array items =>
    obtain ⟨values, valued, rfl⟩ := Option.map_eq_some_iff.1 h
    obtain ⟨readable, nested⟩ := isReadable_of_ofItems? items valued
    exact ⟨.array readable, Nat.succ_le_succ nested⟩
  | .object members =>
    obtain ⟨values, valued, rfl⟩ := Option.map_eq_some_iff.1 h
    obtain ⟨readable, nested⟩ := isReadable_of_ofMembers? members valued
    have kept := (lastOfEach_sublist values).subset
    constructor
    · apply IsReadable.object (nodup_lastOfEach values)
      exact fun member listed => readable member (kept listed)
    · apply Nat.succ_le_succ
      rw [membersNesting_le_iff] at nested ⊢
      exact fun member listed => nested member (kept listed)

theorem isReadable_of_ofItems? (items : List Spelled) {values : List Json}
    (h : ofItems? items = some values) :
  (∀ item ∈ values, item.IsReadable) ∧ itemsNesting values ≤ itemNesting items
  := by
  match items with
  | [] =>
    cases h
    exact ⟨List.forall_mem_nil _, Nat.le_refl _⟩
  | item :: items =>
    simp only [ofItems?, Option.bind_eq_bind, Option.bind_eq_some_iff] at h
    obtain ⟨first, hf, rest, hr, same⟩ := h
    cases same
    obtain ⟨readable, nested⟩ := isReadable_of_ofSpelled? item hf
    obtain ⟨others, below⟩ := isReadable_of_ofItems? items hr
    exact ⟨List.forall_mem_cons.2 ⟨readable, others⟩, max_le_max nested below⟩

theorem isReadable_of_ofMembers? (members : List (List Piece × Spelled))
    {values : List (String × Json)} (h : ofMembers? members = some values) :
  (∀ member ∈ values, member.2.IsReadable) ∧ membersNesting values ≤ memberNesting members
  := by
  match members with
  | [] =>
    cases h
    exact ⟨List.forall_mem_nil _, Nat.le_refl _⟩
  | (pieces, value) :: members =>
    simp only [ofMembers?, Option.bind_eq_bind, Option.bind_eq_some_iff] at h
    obtain ⟨name, -, first, hf, rest, hr, same⟩ := h
    cases same
    obtain ⟨readable, nested⟩ := isReadable_of_ofSpelled? value hf
    obtain ⟨others, below⟩ := isReadable_of_ofMembers? members hr
    exact ⟨List.forall_mem_cons.2 ⟨readable, others⟩, max_le_max nested below⟩

end

/-- The value of a text is readable and nested within the limit. -/
theorem isReadable_of_read? {s : String} {j : Json} (h : read? s = some j) :
  j.IsReadable ∧ j.nesting ≤ maxNesting
  := by
  obtain ⟨spelled, reads, valued⟩ := Option.bind_eq_some_iff.1 h
  obtain ⟨tokens, -, spells⟩ := Option.bind_eq_some_iff.1 reads
  obtain ⟨readable, nested⟩ := isReadable_of_ofSpelled? spelled valued
  exact ⟨readable, nested.trans (nesting_le_of_ofTokens? spells)⟩

/-- The values of texts are the readable ones that are nested within the limit. -/
theorem exists_read?_iff {j : Json} :
  (∃ s, read? s = some j) ↔ j.IsReadable ∧ j.nesting ≤ maxNesting
  := by
  constructor
  · rintro ⟨s, h⟩
    apply isReadable_of_read? h
  · rintro ⟨readable, nested⟩
    exact ⟨j.write, (read?_write readable).trans (if_pos nested)⟩

end FilterQuery.Json
