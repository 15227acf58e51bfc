import FilterQuery.Proofs.Filter.Built

/-!
# Filling an arena

An arena is filled by the calls of a builder, one after the other, and a call may name any owner at
all.  The segments of a field are settled when it is added: later calls only add nodes after it, and
its owners come before it.  So a field whose owner is not there yet has no segments, even when a
node is added at the index of that owner.
-/

namespace FilterQuery.FieldArena

/-- The arena after calls one after the other. -/
def filled (arena : FieldArena) (calls : List FilterBuilder.Call) : FieldArena :=
  calls.foldl (fun arena call => (call.builder.run arena).2) arena

section Filling

variable (arena : FieldArena) {grown : FieldArena} {field : FieldRef}

theorem growsTo_filled (calls : List FilterBuilder.Call) :
  arena.GrowsTo (arena.filled calls)
  := by
  induction calls generalizing arena with
  | nil => apply GrowsTo.refl
  | cons call calls ih => apply (FilterBuilder.growsTo_call arena call).trans (ih _)

/-- A new node is the last one. -/
theorem index_push (node : FieldNode) :
  (arena.push node).1.index + 1 = (arena.push node).2.size
  := (size_push arena node).symm

/-- What the last field of an arena has as segments it keeps under later calls. -/
theorem segments?_filled_of_last (last : field.index + 1 = grown.size)
    (later : List FilterBuilder.Call) :
  (grown.filled later).segments? field = grown.segments? field
  := by
  apply (growsTo_filled grown later).segments?_eq
  rw [← last]
  apply Nat.lt_succ_self

/-- The nodes of a chain are added after those of the arena, and the last of them is returned. -/
theorem size_chain {owner : FieldRef} (last : owner.index + 1 = arena.size)
    (names : List String) :
  (arena.chain owner names).2.size = arena.size + names.length
    ∧ (arena.chain owner names).1.index + 1 = (arena.chain owner names).2.size
  := by
  induction names generalizing arena owner with
  | nil => exact ⟨rfl, last⟩
  | cons name names ih =>
    obtain ⟨whole, index⟩ := ih (arena.child owner name).2 (index_push arena _)
    rw [child, size_push, Nat.add_assoc, Nat.add_comm 1] at whole
    exact ⟨whole, index⟩

/-- A dotted path adds a node for each of its pieces, and the last of them is returned. -/
theorem size_dotted (path : String) :
  (arena.dotted path).2.size = arena.size + (pathPieces path).length
    ∧ (arena.dotted path).1.index + 1 = (arena.dotted path).2.size
  := by
  rw [dotted]
  split
  · next none => cases pathPieces_ne_nil path none
  · next first names pieces =>
    obtain ⟨whole, index⟩ := (arena.root first).2.size_chain (index_push arena _) names
    rw [root, size_push, Nat.add_assoc, Nat.add_comm 1] at whole
    rw [pieces]
    exact ⟨whole, index⟩

end Filling

/-- Of an arena that was filled from the empty one, later calls change neither a node nor the
segments of a field.  A new root or child is returned with the old number of nodes as its index and
is the only new node; a dotted path adds a node for each piece.  Whatever is called later, a new
root has its name as segments, a new child those of its owner before it and its name if the owner
is there and has some, and a dotted path its pieces.  A child of an owner that is not there has none,
also when a node is added where its owner should be. -/
theorem segments?_filled (before later : List FilterBuilder.Call) :
  let arena := empty.filled before
  (∀ field : FieldRef, field.index < arena.size →
      (arena.filled later).get? field = arena.get? field
        ∧ (arena.filled later).segments? field = arena.segments? field)
    ∧ (∀ name,
      (arena.root name).1.index = arena.size ∧ (arena.root name).2.size = arena.size + 1
        ∧ arena.GrowsTo (arena.root name).2
        ∧ ((arena.root name).2.filled later).segments? (arena.root name).1 = some [name])
    ∧ (∀ owner name,
      (arena.child owner name).1.index = arena.size
        ∧ (arena.child owner name).2.size = arena.size + 1
        ∧ arena.GrowsTo (arena.child owner name).2
        ∧ ((arena.child owner name).2.filled later).segments? (arena.child owner name).1
          = if owner.index < (arena.child owner name).1.index then
              (arena.segments? owner).map (· ++ [name])
            else none)
    ∧ (∀ path,
      (arena.dotted path).1.index + 1 = (arena.dotted path).2.size
        ∧ (arena.dotted path).2.size = arena.size + (pathPieces path).length
        ∧ arena.GrowsTo (arena.dotted path).2
        ∧ ((arena.dotted path).2.filled later).segments? (arena.dotted path).1
          = some (pathPieces path))
    ∧ ∀ owner name, arena.size ≤ owner.index →
      ((arena.child owner name).2.filled later).segments? (arena.child owner name).1 = none
  := by
  intro arena
  have grows := growsTo_filled arena later
  have child (owner : FieldRef) (name : String) :
      ((arena.child owner name).2.filled later).segments? (arena.child owner name).1
        = if owner.index < arena.size then (arena.segments? owner).map (· ++ [name]) else none := by
    have last : (arena.child owner name).1.index + 1 = (arena.child owner name).2.size :=
      index_push arena _
    rw [segments?_filled_of_last last, segments?_child]
  refine ⟨?kept, ?root, ?child, ?dotted, ?dangling⟩
  case kept =>
    intro field inside
    exact ⟨grows.get?_eq inside, grows.segments?_eq inside⟩
  case root =>
    intro name
    refine ⟨rfl, size_push arena _, growsTo_push _ _, ?_⟩
    have last : (arena.root name).1.index + 1 = (arena.root name).2.size := index_push arena _
    rw [segments?_filled_of_last last, segments?_root]
  case child =>
    intro owner name
    exact ⟨rfl, size_push arena _, growsTo_push _ _, child owner name⟩
  case dotted =>
    intro path
    obtain ⟨size, last⟩ := arena.size_dotted path
    refine ⟨last, size, growsTo_dotted _ _, ?_⟩
    rw [segments?_filled_of_last last, segments?_dotted]
  case dangling =>
    intro owner name outside
    rw [child, if_neg (Nat.not_lt.2 outside)]

/-- A child of the node to come has no segments, and that node has some once it is there. -/
theorem segments?_filled_forward :
  let arena := empty.filled [.path "a.b"]
  let grown := (arena.child ⟨3⟩ "c").2.filled [.field "d", .child ⟨2⟩ "e"]
  arena.size ≤ 3 ∧ grown.get? ⟨3⟩ = some ⟨"d", none⟩
    ∧ grown.segments? ⟨2⟩ = none ∧ grown.segments? ⟨3⟩ = some ["d"]
  := by
  intro arena grown
  have outside : arena.size ≤ 3 := by decide
  have root : grown.get? ⟨3⟩ = some ⟨"d", none⟩ := rfl
  obtain ⟨-, -, -, -, dangling⟩ :=
    segments?_filled [.path "a.b"] [.field "d", .child ⟨2⟩ "e"]
  exact ⟨outside, root, dangling ⟨3⟩ "c" outside, segments?_of_root _ root⟩

end FilterQuery.FieldArena
