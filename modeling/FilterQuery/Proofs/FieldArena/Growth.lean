import FilterQuery.FieldArena.Basic
import Mathlib.Tactic.Use

/-!
# Arenas that grow

An arena grows at its end, and an owner has to come before the nodes it owns.  So a field keeps its
segments while an arena grows, and each of the ways to add fields gives the new field the segments
it was added with.
-/

namespace FilterQuery.FieldArena

/-- Whether one arena begins with the nodes of another. -/
def GrowsTo (arena grown : FieldArena) : Prop := arena.nodes <+: grown.nodes

section Growth

variable {arena grown other : FieldArena} {field owner : FieldRef}

theorem GrowsTo.refl (arena : FieldArena) :
  arena.GrowsTo arena
  := List.prefix_rfl

theorem GrowsTo.trans (first : arena.GrowsTo grown) (second : grown.GrowsTo other) :
  arena.GrowsTo other
  := List.IsPrefix.trans first second

theorem growsTo_push (arena : FieldArena) (node : FieldNode) :
  arena.GrowsTo (arena.push node).2
  := List.prefix_append _ _

theorem pathPieces_ne_nil (path : String) :
  pathPieces path ≠ []
  := by
  rw [pathPieces, ne_eq, List.map_eq_nil_iff]
  apply List.splitOn_ne_nil

/-- A chain adds a node for each of its names, in order. -/
theorem exists_nodes_chain (arena : FieldArena) (owner : FieldRef) (names : List String) :
  ∃ added, (arena.chain owner names).2.nodes = arena.nodes ++ added
    ∧ added.map FieldNode.name = names
  := by
  induction names generalizing arena owner with
  | nil => exact ⟨[], (List.append_nil _).symm, rfl⟩
  | cons name names ih =>
    obtain ⟨added, nodes, named⟩ := ih (arena.child owner name).2 (arena.child owner name).1
    use ⟨name, some owner⟩ :: added
    constructor
    · rw [chain, nodes, List.append_cons]
      rfl
    · rw [List.map_cons, named]

/-- A dotted path adds a node for each of its pieces, in order. -/
theorem exists_nodes_dotted (arena : FieldArena) (path : String) :
  ∃ added, (arena.dotted path).2.nodes = arena.nodes ++ added
    ∧ added.map FieldNode.name = pathPieces path
  := by
  rw [dotted]
  split
  · next none => cases pathPieces_ne_nil path none
  · next first names pieces =>
    obtain ⟨added, nodes, named⟩ :=
      (arena.root first).2.exists_nodes_chain (arena.root first).1 names
    use ⟨first, none⟩ :: added
    constructor
    · rw [nodes, List.append_cons]
      rfl
    · rw [List.map_cons, named, pieces]

theorem growsTo_dotted (arena : FieldArena) (path : String) :
  arena.GrowsTo (arena.dotted path).2
  := by
  obtain ⟨added, nodes, -⟩ := arena.exists_nodes_dotted path
  exact ⟨added, nodes.symm⟩

/-- The nodes of an arena are found in what it grows to. -/
theorem GrowsTo.get?_eq (h : arena.GrowsTo grown) (inside : field.index < arena.size) :
  grown.get? field = arena.get? field
  := by
  obtain ⟨nodes, same⟩ := h
  rw [get?, ← same]
  apply List.getElem?_append_left inside

/-- A field keeps its segments, or the lack of them, when an arena grows. -/
theorem GrowsTo.segments?_eq (h : arena.GrowsTo grown) (inside : field.index < arena.size) :
  grown.segments? field = arena.segments? field
  := by
  -- The owners go down from the field, so they are inside as well.
  induction field using segments?.induct arena with
  | case1 field none =>
    rw [segments?_of_none _ none, segments?_of_none _ ((h.get?_eq inside).trans none)]
  | case2 field node found root =>
    rw [segments?, segments?, h.get?_eq inside, found]
    simp only [root]
  | case3 field node found owner owned before ih =>
    rw [segments?, segments?, h.get?_eq inside, found]
    simp only [owned, ih (Nat.lt_trans before inside)]
  | case4 field node found owner owned after =>
    rw [segments?, segments?, h.get?_eq inside, found]
    simp only [owned, if_neg after]

/-- A field that has segments is one of the arena. -/
theorem index_lt_of_segments? {names : List String} (h : arena.segments? field = some names) :
  field.index < arena.size
  := by
  apply Nat.lt_of_not_le
  intro outside
  rw [segments?_of_none _ (arena.get?_of_size_le outside)] at h
  cases h

end Growth

/-! ### New fields -/

section Added

variable (arena : FieldArena)

theorem segments?_root (name : String) :
  (arena.root name).2.segments? (arena.root name).1 = some [name]
  := by
  apply segments?_of_root
  apply get?_push

/-- A child has the segments of its owner and its name, if the owner is there before it. -/
theorem segments?_child (owner : FieldRef) (name : String) :
  (arena.child owner name).2.segments? (arena.child owner name).1
    = if owner.index < arena.size then (arena.segments? owner).map (· ++ [name]) else none
  := by
  have added : (arena.child owner name).2.get? (arena.child owner name).1
      = some ⟨name, some owner⟩ := get?_push _ _
  have new : (arena.child owner name).1.index = arena.size := rfl
  rw [segments?_of_child _ added, new]
  by_cases inside : owner.index < arena.size
  · have kept : (arena.child owner name).2.segments? owner = arena.segments? owner :=
      (growsTo_push arena _).segments?_eq inside
    rw [if_pos inside, if_pos inside, kept]
  · rw [if_neg inside, if_neg inside]

/-- The last field of a chain has the segments that the chain was added to, and those of the
chain. -/
theorem segments?_chain {owner : FieldRef} {above : List String}
    (h : arena.segments? owner = some above) (names : List String) :
  (arena.chain owner names).2.segments? (arena.chain owner names).1 = some (above ++ names)
  := by
  induction names generalizing arena owner above with
  | nil => rw [List.append_nil, chain, h]
  | cons name names ih =>
    have first : (arena.child owner name).2.segments? (arena.child owner name).1
        = some (above ++ [name]) := by
      rw [segments?_child, if_pos (index_lt_of_segments? h), h, Option.map_some]
    rw [List.append_cons]
    apply ih _ first

/-- The field of a dotted path has the pieces of the path as its segments. -/
theorem segments?_dotted (path : String) :
  (arena.dotted path).2.segments? (arena.dotted path).1 = some (pathPieces path)
  := by
  rw [dotted]
  split
  · next none => cases pathPieces_ne_nil path none
  · next first names pieces =>
    rw [pieces]
    apply segments?_chain _ (segments?_root arena first)

end Added

end FilterQuery.FieldArena
