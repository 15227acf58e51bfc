import FilterQuery.FieldArena.Basic
import FilterQuery.Json.Record
import FilterQuery.Json.Selection

/-!
# Arenas in JSON

A node is a record of its name and of the index of its owner, which is null or left out for a root.
An index has 64 bits.
-/

namespace FilterQuery

/-- A reference in JSON. -/
def FieldRef.toJson (field : FieldRef) : Json := .ofNat field.index

/-- The reference of a JSON value. -/
def FieldRef.ofJson? (j : Json) : Option FieldRef := (j.natBelow? UInt64.size).map FieldRef.mk

namespace FieldNode

/-- The fields of a node. -/
def fields : List String := ["name", "owner"]

/-- A node in JSON. -/
def toJson (node : FieldNode) : Json :=
  .object [("name", .string node.name), ("owner", (node.owner.map FieldRef.toJson).getD .null)]

/-- The owner of a JSON value. -/
def owner? : Option Json → Option (Option FieldRef)
  | none => some none
  | some .null => some none
  | some j => (FieldRef.ofJson? j).map some

/-- The node of a JSON value. -/
def ofJson? (j : Json) : Option FieldNode := do
  let name ← (← j.field? fields "name").string?
  let owner ← owner? (j.field? fields "owner")
  some ⟨name, owner⟩

end FieldNode

namespace FieldArena

/-- The fields of an arena. -/
def fields : List String := ["nodes"]

/-- An arena in JSON. -/
def toJson (arena : FieldArena) : Json :=
  .object [("nodes", .array (arena.nodes.map FieldNode.toJson))]

/-- The arena of a JSON value. -/
def ofJson? (j : Json) : Option FieldArena := do
  let nodes ← (← j.field? fields "nodes").array?
  (nodes.mapM FieldNode.ofJson?).map FieldArena.mk

/-- What is read of the text of an arena. -/
def selector : Json.Selector :=
  .record [("nodes", .items (.record [("name", .all), ("owner", .all)]))]

/-- The arena of a text. -/
def read? (s : String) : Option FieldArena := (selector.read? s).bind ofJson?

end FieldArena

end FilterQuery
