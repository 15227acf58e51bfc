/-!
# Fields

A field of a document is named by a path of segments, and a `FieldArena` holds the segments of many
paths: a node has the name of a segment and refers to its owner, the node of the segment before it,
by index.  `FieldArena.segments?` follows the owners from a node to a root.  An owner has to come
before the nodes it owns, so the search ends even when the owners of an arena form a cycle.
-/

namespace FilterQuery

/-- A reference to a node of an arena. -/
structure FieldRef where
  index : Nat
deriving DecidableEq

/-- A segment of a path, with the segment before it; a root has none. -/
structure FieldNode where
  name : String
  owner : Option FieldRef
deriving DecidableEq

/-- The segments of paths. -/
structure FieldArena where
  nodes : List FieldNode
deriving DecidableEq

/-- The pieces of a dotted path.  There is one more of them than there are dots. -/
def pathPieces (path : String) : List String :=
  (path.toList.splitOn '.').map String.ofList

/-- The dotted path with the given pieces. -/
def dottedPath (pieces : List String) : String :=
  String.ofList (['.'].intercalate (pieces.map String.toList))

namespace FieldArena

/-- The arena without nodes. -/
def empty : FieldArena := ⟨[]⟩

/-- The number of nodes. -/
def size (arena : FieldArena) : Nat := arena.nodes.length

/-- The node of a reference. -/
def get? (arena : FieldArena) (field : FieldRef) : Option FieldNode :=
  arena.nodes[field.index]?

/-- Adds a node. -/
def push (arena : FieldArena) (node : FieldNode) : FieldRef × FieldArena :=
  (⟨arena.size⟩, ⟨arena.nodes ++ [node]⟩)

/-- Adds a root. -/
def root (arena : FieldArena) (name : String) : FieldRef × FieldArena :=
  arena.push ⟨name, none⟩

/-- Adds a node owned by a given one. -/
def child (arena : FieldArena) (owner : FieldRef) (name : String) : FieldRef × FieldArena :=
  arena.push ⟨name, some owner⟩

/-- Adds a chain of nodes, the first owned by a given node and each other by the one before it. -/
def chain (arena : FieldArena) (owner : FieldRef) : List String → FieldRef × FieldArena
  | [] => (owner, arena)
  | name :: names =>
    let (field, arena) := arena.child owner name
    arena.chain field names

/-- Adds the segments of a dotted path, and refers to the last. -/
def dotted (arena : FieldArena) (path : String) : FieldRef × FieldArena :=
  match pathPieces path with
  | [] => arena.root ""
  | first :: names =>
    let (field, arena) := arena.root first
    arena.chain field names

/-- The names of the segments from a root to a field, if all of them are in the arena and each comes
before the one it owns. -/
def segments? (arena : FieldArena) (field : FieldRef) : Option (List String) :=
  match arena.get? field with
  | none => none
  | some node =>
    match node.owner with
    | none => some [node.name]
    | some owner =>
      if owner.index < field.index then (arena.segments? owner).map (· ++ [node.name]) else none
termination_by field.index

section Lemmas

variable (arena : FieldArena) (node : FieldNode)

@[simp]
theorem size_push :
  (arena.push node).2.size = arena.size + 1
  := by
  simp [push, size]

/-- A new node is found at its reference. -/
@[simp]
theorem get?_push :
  (arena.push node).2.get? (arena.push node).1 = some node
  := by
  simp [push, get?, size]

/-- The nodes that were there before stay where they are. -/
theorem get?_push_of_lt {field : FieldRef} (h : field.index < arena.size) :
  (arena.push node).2.get? field = arena.get? field
  := List.getElem?_append_left h

theorem get?_of_size_le {field : FieldRef} (h : arena.size ≤ field.index) :
  arena.get? field = none
  := List.getElem?_eq_none h

theorem segments?_of_none {field : FieldRef} (h : arena.get? field = none) :
  arena.segments? field = none
  := by
  rw [segments?, h]

/-- The segments of a root are its name. -/
theorem segments?_of_root {field : FieldRef} {name : String}
    (h : arena.get? field = some ⟨name, none⟩) :
  arena.segments? field = some [name]
  := by
  rw [segments?, h]

/-- The segments of an owned node are those of its owner, if that comes before, and its name. -/
theorem segments?_of_child {field owner : FieldRef} {name : String}
    (h : arena.get? field = some ⟨name, some owner⟩) :
  arena.segments? field
    = if owner.index < field.index then (arena.segments? owner).map (· ++ [name]) else none
  := by
  rw [segments?, h]

end Lemmas

end FieldArena

end FilterQuery
