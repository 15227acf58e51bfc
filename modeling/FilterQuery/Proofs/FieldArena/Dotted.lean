import FilterQuery.Compiler
import FilterQuery.Proofs.FieldArena.Growth

/-!
# Dotted paths in an arena and in the store

A dotted path is its pieces with dots between them, and no piece has a dot.  The path in the store
of a dotted path that was added to an arena has the same pieces, but for `Id` and `id`, which are
renamed.  The name that is put in their place is not renamed once more, even if it is one of the
two.  So if that name has no dots, a path of the store that is added again leads to itself, and two
paths are the same in the store only if their pieces are after they were renamed.
-/

namespace FilterQuery

/-! ### Pieces -/

/-- No part of a list that was split has the separator in it. -/
theorem notMem_of_mem_splitOn {α : Type} [DecidableEq α] {x : α} {s part : List α}
    (h : part ∈ s.splitOn x) :
  x ∉ part
  := by
  by_cases inside : x ∈ s
  · -- The first part goes up to the first separator, and the others are shorter than the list.
    obtain ⟨first, rest, rfl, outside⟩ := List.eq_append_cons_of_mem inside
    rw [List.splitOn_append_cons_self_of_not_mem outside] at h
    rcases List.mem_cons.1 h with rfl | h
    · apply outside
    · apply notMem_of_mem_splitOn h
  · rw [List.splitOn_eq_singleton inside] at h
    cases List.mem_singleton.1 h
    apply inside
termination_by s.length

/-- The pieces of a path make the path. -/
theorem dottedPath_pathPieces (path : String) :
  dottedPath (pathPieces path) = path
  := by
  simp [dottedPath, pathPieces, Function.comp_def, List.intercalate_splitOn]

/-- No piece of a path has a dot in it. -/
theorem dot_notMem_of_mem_pathPieces {path piece : String} (h : piece ∈ pathPieces path) :
  '.' ∉ piece.toList
  := by
  obtain ⟨part, listed, rfl⟩ := List.mem_map.1 h
  rw [String.toList_ofList]
  apply notMem_of_mem_splitOn listed

/-- Pieces without dots are those of the path that they make. -/
theorem pathPieces_dottedPath {pieces : List String}
    (undotted : ∀ piece ∈ pieces, '.' ∉ piece.toList) (nonempty : pieces ≠ []) :
  pathPieces (dottedPath pieces) = pieces
  := by
  have parts : (['.'].intercalate (pieces.map String.toList)).splitOn '.'
      = pieces.map String.toList := by
    apply List.splitOn_intercalate
    · rw [List.forall_mem_map]
      apply undotted
    · rw [ne_eq, List.map_eq_nil_iff]
      apply nonempty
  rw [pathPieces, dottedPath, String.toList_ofList, parts, List.map_map]
  simp [Function.comp_def]

/-! ### Paths in the store -/

namespace Compiler

/-- The path in the store of a dotted path that is added to an arena. -/
def resolveAdded? (c : Compiler) (arena : FieldArena) (path : String) : Option String :=
  c.resolve? (arena.dotted path).2 (arena.dotted path).1

/-- The pieces of a dotted path by their names in the store. -/
def storePieces (c : Compiler) (path : String) : List String :=
  (pathPieces path).map c.segmentName

section Store

variable (c : Compiler) (arena : FieldArena)

theorem resolveAdded?_eq (path : String) :
  c.resolveAdded? arena path = some (dottedPath (c.storePieces path))
  := by
  rw [resolveAdded?, resolve?, FieldArena.segments?_dotted, Option.map_some, storePieces]

/-- The name of a segment in the store has itself as its name there. -/
theorem segmentName_segmentName (name : String) :
  c.segmentName (c.segmentName name) = c.segmentName name
  := by
  by_cases identity : name = "Id" ∨ name = "id"
  · have renamed : c.segmentName name = c.settings.identityField := if_pos identity
    rw [renamed, segmentName, ite_eq_right_iff]
    exact fun _ => rfl
  · have kept : c.segmentName name = name := if_neg identity
    rw [kept, kept]

/-- Pieces that are not renamed make the path they come from. -/
theorem dottedPath_storePieces {path : String}
    (kept : ∀ piece ∈ pathPieces path, piece ≠ "Id" ∧ piece ≠ "id") :
  dottedPath (c.storePieces path) = path
  := by
  have same : ∀ piece ∈ pathPieces path, c.segmentName piece = piece :=
    fun piece listed => if_neg (not_or.2 (kept piece listed))
  rw [storePieces, List.map_congr_left same, List.map_id', dottedPath_pathPieces]

variable {c} (undotted : '.' ∉ c.settings.identityField.toList)

include undotted

/-- The pieces of a path of the store are those it was made of. -/
theorem pathPieces_dottedPath_storePieces (path : String) :
  pathPieces (dottedPath (c.storePieces path)) = c.storePieces path
  := by
  apply pathPieces_dottedPath
  · rw [storePieces, List.forall_mem_map]
    intro piece listed
    rw [segmentName]
    split
    · apply undotted
    · apply dot_notMem_of_mem_pathPieces listed
  · rw [storePieces, ne_eq, List.map_eq_nil_iff]
    apply FieldArena.pathPieces_ne_nil

/-- A path of the store that is added to an arena leads to itself. -/
theorem resolveAdded?_dottedPath (path : String) :
  c.resolveAdded? arena (dottedPath (c.storePieces path)) = some (dottedPath (c.storePieces path))
  := by
  have again : c.storePieces (dottedPath (c.storePieces path)) = c.storePieces path := by
    rw [storePieces, pathPieces_dottedPath_storePieces undotted, storePieces, List.map_map]
    apply List.map_congr_left
    intro piece _
    apply segmentName_segmentName
  rw [resolveAdded?_eq, again]

end Store

end Compiler

/-- Adding a dotted path to an arena adds a node for each of its pieces, the parts of it between the
dots.  They are the segments of the field it returns, and in the store they are those that are not
`Id` or `id` and the name of the identity field for each that is, with dots between them.  If that
name has no dots, then the path in the store, added to any arena, is a path to itself, and it is
that of another dotted path exactly when the two have the same pieces by their names in the
store. -/
theorem resolve?_dotted (c : Compiler) (arena : FieldArena) (path : String) :
  (dottedPath (pathPieces path) = path ∧ ∀ piece ∈ pathPieces path, '.' ∉ piece.toList)
    ∧ (∃ added, (arena.dotted path).2.nodes = arena.nodes ++ added
      ∧ added.map FieldNode.name = pathPieces path)
    ∧ (arena.dotted path).2.segments? (arena.dotted path).1 = some (pathPieces path)
    ∧ c.resolveAdded? arena path
      = some (dottedPath ((pathPieces path).map fun piece =>
          if piece = "Id" ∨ piece = "id" then c.settings.identityField else piece))
    ∧ ((∀ piece ∈ pathPieces path, piece ≠ "Id" ∧ piece ≠ "id") →
      c.resolveAdded? arena path = some path)
    ∧ ('.' ∉ c.settings.identityField.toList →
      (∀ resolved, c.resolveAdded? arena path = some resolved →
        ∀ other, c.resolveAdded? other resolved = some resolved)
      ∧ ∀ other path', c.resolveAdded? arena path = c.resolveAdded? other path'
        ↔ c.storePieces path = c.storePieces path')
  := by
  refine ⟨⟨dottedPath_pathPieces path, fun _ => dot_notMem_of_mem_pathPieces⟩,
    arena.exists_nodes_dotted path, arena.segments?_dotted path, c.resolveAdded?_eq arena path,
    ?kept, fun undotted => ⟨?again, ?same⟩⟩
  case kept =>
    intro kept
    rw [c.resolveAdded?_eq, c.dottedPath_storePieces kept]
  case again =>
    intro resolved found other
    rw [c.resolveAdded?_eq] at found
    cases found
    apply Compiler.resolveAdded?_dottedPath other undotted
  case same =>
    intro other path'
    rw [c.resolveAdded?_eq, c.resolveAdded?_eq, Option.some_inj]
    constructor
    · intro same
      rw [← Compiler.pathPieces_dottedPath_storePieces undotted path, same,
        Compiler.pathPieces_dottedPath_storePieces undotted path']
    · intro same
      rw [same]

/-- The name of the identity field may be one of those that it takes the place of, and pieces may be
empty. -/
theorem resolve?_dotted_identity :
  let c := Compiler.default.withSettings ⟨3, "id"⟩
  ∃ d, c = .ok d ∧ '.' ∉ d.settings.identityField.toList
    ∧ (∀ piece ∈ pathPieces "ID..", piece ≠ "Id" ∧ piece ≠ "id")
    ∧ d.resolveAdded? .empty "ID.." = some "ID.."
    ∧ d.resolveAdded? .empty ".Id." = some ".id."
    ∧ d.resolveAdded? .empty ".id." = some ".id."
    ∧ d.resolveAdded? .empty ".Id." ≠ d.resolveAdded? .empty "Id."
  := by
  intro c
  refine ⟨⟨.bson, .builtin, ⟨3, "id"⟩⟩, rfl, by decide, by decide, ?_⟩
  obtain ⟨-, -, -, -, kept, -⟩ := resolve?_dotted ⟨.bson, .builtin, ⟨3, "id"⟩⟩ .empty "ID.."
  obtain ⟨-, -, -, found, -, same⟩ := resolve?_dotted ⟨.bson, .builtin, ⟨3, "id"⟩⟩ .empty ".Id."
  obtain ⟨again, differ⟩ := same (by decide)
  refine ⟨kept (by decide), found, again _ found .empty, ?_⟩
  rw [ne_eq, differ .empty "Id."]
  decide

end FilterQuery
