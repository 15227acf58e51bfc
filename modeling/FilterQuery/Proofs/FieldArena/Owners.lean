import FilterQuery.Proofs.FieldArena.Growth
import Mathlib.Data.List.Chain
import Mathlib.Data.Option.Basic
import Mathlib.Logic.Function.Iterate

/-!
# The way up from a field

The owners of an arena that was decoded can form any graph at all.  A way up from a field, with
`IsWayUp`, goes from each node to its owner, the owner being of a smaller index, and ends at a node
that has none.  There is at most one, and a field has segments exactly when there is one; they are
the names along it.  The `Search` for them is a loop that takes one node after the other, and it ends
after no more steps than there are nodes up to the field.
-/

namespace FilterQuery.FieldArena

/-- The name of a node of an arena. -/
def name? (arena : FieldArena) (field : FieldRef) : Option String :=
  (arena.get? field).map FieldNode.name

/-- The owner of a node of an arena. -/
def owner? (arena : FieldArena) (field : FieldRef) : Option FieldRef :=
  (arena.get? field).bind FieldNode.owner

/-- A list of nodes that goes from a field to a root, each but the first the owner of the one
before it, with an index that is smaller. -/
structure IsWayUp (arena : FieldArena) (field : FieldRef) (way : List FieldRef) : Prop where
  first : way.head? = some field
  inside : ∀ node ∈ way, node.index < arena.size
  owned : way.IsChain fun node owner => owner.index < node.index ∧ arena.owner? node = some owner
  last : ∀ node ∈ way.getLast?, arena.owner? node = none

section Way

variable {arena : FieldArena} {field owner : FieldRef} {node : FieldNode} {way : List FieldRef}

theorem get?_isSome_iff :
  (arena.get? field).isSome ↔ field.index < arena.size
  := by
  rw [get?, isSome_getElem?]
  rfl

theorem index_lt_of_get? (found : arena.get? field = some node) :
  field.index < arena.size
  := get?_isSome_iff.1 (Option.isSome_of_eq_some found)

/-- The way up from a root is the root. -/
theorem isWayUp_root (found : arena.get? field = some node) (root : node.owner = none) :
  arena.IsWayUp field [field]
  := by
  refine ⟨rfl, ?_, List.isChain_singleton field, ?_⟩
  · rintro _ (_ | ⟨_, ⟨⟩⟩)
    apply index_lt_of_get? found
  · intro last isLast
    obtain rfl : field = last := Option.some.inj isLast
    rw [owner?, found, Option.bind_some, root]

/-- The way up from a field that is owned goes on as that from its owner. -/
theorem IsWayUp.cons (found : arena.get? field = some node) (owned : node.owner = some owner)
    (before : owner.index < field.index) (h : arena.IsWayUp owner way) :
  arena.IsWayUp field (field :: way)
  := by
  obtain ⟨rest, rfl⟩ : ∃ rest, way = owner :: rest := List.head?_eq_some_iff.1 h.first
  refine ⟨rfl, ?_, ?_, ?_⟩
  · rintro _ (_ | ⟨_, above⟩)
    · apply index_lt_of_get? found
    · apply h.inside _ above
  · apply List.isChain_cons_cons.2 ⟨⟨before, ?_⟩, h.owned⟩
    rw [owner?, found, Option.bind_some, owned]
  · rw [List.getLast?_cons_cons]
    exact h.last

/-- A way up stops at a root, or it goes on from the owner. -/
theorem IsWayUp.root_or_cons (h : arena.IsWayUp field way) :
  ∃ node, arena.get? field = some node
    ∧ (node.owner = none ∧ way = [field]
      ∨ ∃ owner rest, node.owner = some owner ∧ owner.index < field.index
        ∧ way = field :: rest ∧ arena.IsWayUp owner rest)
  := by
  obtain ⟨rest, rfl⟩ : ∃ rest, way = field :: rest := List.head?_eq_some_iff.1 h.first
  obtain ⟨node, found⟩ := Option.isSome_iff_exists.1
    (get?_isSome_iff.2 (h.inside field List.mem_cons_self))
  have owner : arena.owner? field = node.owner := by
    rw [owner?, found, Option.bind_some]
  use node, found
  cases rest with
  | nil =>
    left
    rw [← owner]
    exact ⟨h.last field rfl, rfl⟩
  | cons next rest =>
    right
    obtain ⟨⟨before, owned⟩, chain⟩ := List.isChain_cons_cons.1 h.owned
    rw [owner] at owned
    refine ⟨next, next :: rest, owned, before, rfl, rfl, ?_, chain, ?_⟩
    · apply (List.forall_mem_cons.1 h.inside).2
    · rw [← List.getLast?_cons_cons]
      exact h.last

/-- There is one way up at most. -/
theorem IsWayUp.unique {other : List FieldRef} (h : arena.IsWayUp field way)
    (h' : arena.IsWayUp field other) :
  way = other
  := by
  induction way generalizing field other with
  | nil => cases h.first
  | cons _ way ih =>
    obtain ⟨node, found, step⟩ := h.root_or_cons
    obtain ⟨_, found', step'⟩ := h'.root_or_cons
    cases found.symm.trans found'
    rcases step with ⟨root, same⟩ | ⟨owner, rest, owned, -, same, above⟩
      <;> rcases step' with ⟨root', rfl⟩ | ⟨owner', rest', owned', -, rfl, above'⟩
    · exact same
    · cases root.symm.trans owned'
    · cases root'.symm.trans owned
    · cases owned.symm.trans owned'
      cases same
      rw [ih above above']

/-- The indices of a way up go down, so there are no more of them than up to the first. -/
theorem IsWayUp.length_le (h : arena.IsWayUp field way) :
  way.length ≤ field.index + 1
  := by
  induction way generalizing field with
  | nil => apply Nat.zero_le
  | cons _ way ih =>
    obtain ⟨node, -, ⟨-, same⟩ | ⟨owner, rest, -, before, same, above⟩⟩ := h.root_or_cons
      <;> cases same
    · apply Nat.succ_le_succ (Nat.zero_le _)
    · apply Nat.succ_le_succ (Nat.le_trans (ih above) before)

/-! ### Segments -/

/-- A field with a way up has the names along it as segments. -/
theorem IsWayUp.exists_segments? (h : arena.IsWayUp field way) :
  ∃ names, arena.segments? field = some names ∧ names.map some = way.reverse.map arena.name?
  := by
  induction way generalizing field with
  | nil => cases h.first
  | cons _ way ih =>
    obtain ⟨⟨name, _⟩, found, ⟨rfl, same⟩ | ⟨owner, rest, rfl, before, same, above⟩⟩ :=
      h.root_or_cons <;> cases same
    · use [name], segments?_of_root arena found
      simp [name?, found]
    · obtain ⟨names, segments, along⟩ := ih above
      use names ++ [name]
      constructor
      · rw [segments?_of_child arena found, if_pos before, segments, Option.map_some]
      · simp [name?, found, along]

/-- A field that has segments has a way up. -/
theorem exists_isWayUp {names : List String} (h : arena.segments? field = some names) :
  ∃ way, arena.IsWayUp field way
  := by
  induction field using segments?.induct arena generalizing names with
  | case1 field none =>
    rw [segments?_of_none arena none] at h
    cases h
  | case2 field node found root => exact ⟨[field], isWayUp_root found root⟩
  | case3 field node found owner owned before ih =>
    obtain ⟨name, _⟩ := node
    cases owned
    rw [segments?_of_child arena found, if_pos before] at h
    obtain ⟨above, segments, -⟩ := Option.map_eq_some_iff.1 h
    obtain ⟨way, up⟩ := ih segments
    exact ⟨field :: way, up.cons found rfl before⟩
  | case4 field node found owner owned after =>
    obtain ⟨name, _⟩ := node
    cases owned
    rw [segments?_of_child arena found, if_neg after] at h
    cases h

/-- The segments of a field are the names along a way up from it. -/
theorem segments?_eq_some_iff {names : List String} :
  arena.segments? field = some names
    ↔ ∃ way, arena.IsWayUp field way ∧ names.map some = way.reverse.map arena.name?
  := by
  constructor
  · intro h
    obtain ⟨way, up⟩ := exists_isWayUp h
    obtain ⟨names', segments, along⟩ := up.exists_segments?
    cases h.symm.trans segments
    exact ⟨way, up, along⟩
  · rintro ⟨way, up, along⟩
    obtain ⟨names', segments, along'⟩ := up.exists_segments?
    rw [segments, List.map_injective_iff.2 (Option.some_injective String) (along.trans along'.symm)]

/-- A field has no segments exactly when there is no way up from it. -/
theorem segments?_eq_none_iff :
  arena.segments? field = none ↔ ∀ way, ¬ arena.IsWayUp field way
  := by
  constructor
  · intro none way up
    obtain ⟨names, segments, -⟩ := up.exists_segments?
    cases none.symm.trans segments
  · intro noWay
    apply Option.eq_none_iff_forall_ne_some.2
    intro names segments
    obtain ⟨way, up⟩ := exists_isWayUp segments
    exact noWay way up

end Way

/-! ### The search -/

/-- A state of the search for segments: there is a node to look at, and the names of those below it
are known, or the search has ended. -/
inductive Search where
  | looking (field : FieldRef) (below : List String)
  | ended (names : Option (List String))

/-- One step of the search.  The name of the node is taken before its owner is looked at. -/
def Search.step (arena : FieldArena) : Search → Search
  | .looking field below =>
    match arena.get? field with
    | none => .ended none
    | some node =>
      match node.owner with
      | none => .ended (some (node.name :: below))
      | some owner =>
        if field.index ≤ owner.index then .ended none else .looking owner (node.name :: below)
  | .ended names => .ended names

section Searching

variable (arena : FieldArena)

theorem Search.iterate_step_ended (n : Nat) (names : Option (List String)) :
  (step arena)^[n] (.ended names) = .ended names
  := Function.iterate_fixed rfl n

/-- The search ends with the segments of its field before the names below it, after no more steps
than there are indices up to the field. -/
theorem Search.iterate_step_looking {n : Nat} {field : FieldRef} (within : field.index < n)
    (below : List String) :
  (step arena)^[n] (.looking field below) = .ended ((arena.segments? field).map (· ++ below))
  := by
  -- The index of the node that is looked at goes down in each step.
  induction n generalizing field below with
  | zero => cases within
  | succ n ih =>
    rw [Function.iterate_succ_apply, step]
    cases found : arena.get? field with
    | none => simp only [iterate_step_ended, segments?_of_none arena found, Option.map_none]
    | some node =>
      obtain ⟨name, _ | owner⟩ := node
      · simp only [iterate_step_ended, segments?_of_root arena found, Option.map_some,
          List.singleton_append]
      · rw [segments?_of_child arena found]
        dsimp only
        by_cases before : owner.index < field.index
        · rw [if_neg (Nat.not_le.2 before), if_pos before,
            ih (Nat.lt_of_lt_of_le before (Nat.le_of_lt_succ within)), Option.map_map]
          simp only [Function.comp_def, List.append_assoc, List.singleton_append]
        · rw [if_pos (Nat.le_of_not_lt before), if_neg before, iterate_step_ended,
            Option.map_none]

end Searching

end FilterQuery.FieldArena
