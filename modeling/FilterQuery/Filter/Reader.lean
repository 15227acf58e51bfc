import FilterQuery.Filter.Json
import FilterQuery.Traced

/-!
# Reading filters

`Filter.read` reads a filter from a JSON text.  Before the JSON value is decoded, the names of kinds
in it are looked at, so that an unknown kind is reported by its name even when something else is
wrong with the filter.  The look goes through objects only: from a node to its right operand and
then to its left one, where they are expressions.
-/

namespace FilterQuery

namespace Json

/-- The expression in an operand of a node. -/
def nestedNode? (side : String) (node : Json) : Option Json :=
  (node.get? side).bind (get? "Expression")

/-- The name of the kind of a node, if it is none of a kind. -/
def unknownKindHere? (node : Json) : Option UnknownKind :=
  match node.get? "kind" with
  | some (.string name) =>
    match ExprKind.ofName name with
    | .error fault => some fault
    | .ok _ => none
  | _ => none

theorem sizeOf_nestedNode?_lt {side : String} {node inner : Json}
    (h : node.nestedNode? side = some inner) :
  sizeOf inner < sizeOf node
  := by
  obtain ⟨operand, ho, hi⟩ := Option.bind_eq_some_iff.1 h
  exact Nat.lt_trans (sizeOf_get?_lt hi) (sizeOf_get?_lt ho)

/-- The first unknown kind of a node and the nodes below it. -/
def unknownKind? (node : Json) : Option UnknownKind :=
  match unknownKindHere? node with
  | some fault => some fault
  | none =>
    let right :=
      match h : node.nestedNode? "right" with
      | some inner =>
        have := sizeOf_nestedNode?_lt h
        unknownKind? inner
      | none => none
    match right with
    | some fault => some fault
    | none =>
      match h : node.nestedNode? "left" with
      | some inner =>
        have := sizeOf_nestedNode?_lt h
        unknownKind? inner
      | none => none
termination_by sizeOf node

/-- The node is looked at first, then what is in its right operand and then in its left one. -/
theorem unknownKind?_eq (node : Json) :
  unknownKind? node
    = (unknownKindHere? node).or (((nestedNode? "right" node).bind unknownKind?).or
        ((nestedNode? "left" node).bind unknownKind?))
  := by
  rw [unknownKind?]
  simp only
  cases unknownKindHere? node with
  | some fault => rfl
  | none =>
    cases nestedNode? "right" node with
    | none => cases nestedNode? "left" node <;> rfl
    | some inner =>
      simp only [Option.bind_some, Option.none_or]
      cases unknownKind? inner with
      | some fault => rfl
      | none => cases nestedNode? "left" node <;> rfl

end Json

namespace Filter

/-- The first unknown kind in the JSON value of a filter. -/
def unknownKind? (j : Json) : Option UnknownKind := (j.get? "root").bind Json.unknownKind?

/-- The filter of a JSON value whose kinds are looked at first. -/
def ofJson (j : Json) : Traced Filter :=
  match unknownKind? j with
  | some fault => do
    Traced.emit (.unsupportedExpression fault.name)
    Traced.fail (.ofUnknownKind fault)
  | none =>
    match ofJson? j with
    | some filter => pure filter
    | none => Traced.fail (.malformed .notFilter)

/-- The filter of a text. -/
def read (s : String) : Traced Filter :=
  match Json.read? s with
  | some j => ofJson j
  | none => Traced.fail (.malformed .notJson)

end Filter

end FilterQuery
