import FilterQuery.Filter.Basic

/-!
# Building filters

A `FilterBuilder` adds the fields it needs to an arena and makes something from the references to
them.  `FilterBuilder.finish` runs one that makes an expression, and seals the arena with it.
`Filter.nested` and `Filter.ofCall` are two small filters built this way.
-/

namespace FilterQuery

/-- A way to make something from references to the fields of an arena that is being filled. -/
abbrev FilterBuilder := StateM FieldArena

namespace FilterBuilder

/-- A new root. -/
def field (name : String) : FilterBuilder FieldRef := fun arena => arena.root name

/-- A new field owned by a given one. -/
def child (owner : FieldRef) (name : String) : FilterBuilder FieldRef :=
  fun arena => arena.child owner name

/-- The last field of a new dotted path. -/
def path (dotted : String) : FilterBuilder FieldRef := fun arena => arena.dotted dotted

/-- The filter of an expression and the fields made for it. -/
def finish (builder : FilterBuilder Expression) : Filter :=
  let (root, paths) := builder.run .empty
  ⟨paths, root⟩

end FilterBuilder

namespace Filter

/-- Three fields compared for equality, the last two joined by "or" and all by "and". -/
def nested : Filter := FilterBuilder.finish do
  let a ← FilterBuilder.field "a"
  let b ← FilterBuilder.field "b"
  let c ← FilterBuilder.field "c"
  return .and (.eq a (.literal (.int 1)))
    (.or (.eq b (.literal (.int 2))) (.eq c (.literal (.int 3))))

/-- A function of one argument applied to the field `name`. -/
def ofCall (function : String) (arg : Value) : Filter := FilterBuilder.finish do
  let name ← FilterBuilder.field "name"
  return .call name function [arg]

end Filter

end FilterQuery
