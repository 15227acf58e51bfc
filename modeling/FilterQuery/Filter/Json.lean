import FilterQuery.FieldArena.Json
import FilterQuery.Filter.Basic
import FilterQuery.Json.Printer
import FilterQuery.Value.Json

/-!
# Filters in JSON

Filters, expressions, ranges and function calls are records; an operand is a variant named for its
shape.
-/

namespace FilterQuery

/-- A kind in JSON. -/
def ExprKind.toJson (kind : ExprKind) : Json := .string kind.name

/-- The kind of a JSON value. -/
def ExprKind.ofJson? (j : Json) : Option ExprKind := do (ofName (← j.string?)).toOption

/-- Values in JSON. -/
def Json.ofValues (values : List Value) : Json := .array (values.map Value.toJson)

/-- The values of a JSON value. -/
def Json.values? (j : Json) : Option (List Value) := do (← j.array?).mapM Value.ofJson?

namespace Range

/-- The fields of a range. -/
def fields : List String := ["start", "end"]

/-- A range in JSON. -/
def toJson (range : Range) : Json :=
  .object [("start", range.start.toJson), ("end", range.stop.toJson)]

/-- The range of a JSON value. -/
def ofJson? (j : Json) : Option Range := do
  let start ← Value.ofJson? (← j.field? fields "start")
  let stop ← Value.ofJson? (← j.field? fields "end")
  some ⟨start, stop⟩

end Range

namespace FunctionCall

/-- The fields of a function call. -/
def fields : List String := ["name", "args"]

/-- A function call in JSON. -/
def toJson (call : FunctionCall) : Json :=
  .object [("name", .string call.name), ("args", .ofValues call.args)]

/-- The function call of a JSON value. -/
def ofJson? (j : Json) : Option FunctionCall := do
  let name ← (← j.field? fields "name").string?
  let args ← (← j.field? fields "args").values?
  some ⟨name, args⟩

end FunctionCall

/-- The fields of an expression. -/
def Expression.fields : List String := ["kind", "left", "right"]

namespace Operand

/-- An operand in JSON. -/
def toJson : Operand → Json
  | .expression kind left right =>
    .object [("Expression",
      .object [("kind", kind.toJson), ("left", left.toJson), ("right", right.toJson)])]
  | .field ref => .object [("Field", ref.toJson)]
  | .literal value => .object [("Literal", value.toJson)]
  | .range r => .object [("Range", r.toJson)]
  | .list values => .object [("List", .ofValues values)]
  | .call c => .object [("Function", c.toJson)]

/-- The operand of a variant that is no expression. -/
def ofVariant? (name : String) (payload : Json) : Option Operand :=
  match name with
  | "Field" => (FieldRef.ofJson? payload).map .field
  | "Literal" => (Value.ofJson? payload).map .literal
  | "Range" => (Range.ofJson? payload).map .range
  | "List" => payload.values?.map .list
  | "Function" => (FunctionCall.ofJson? payload).map .call
  | _ => none

/-- The operand of a JSON value. -/
def ofJson? (j : Json) : Option Operand :=
  match hv : j.variant? with
  | some (name, some payload) =>
    if name = "Expression" then
      match hl : payload.field? Expression.fields "left",
          hr : payload.field? Expression.fields "right" with
      | some left, some right => do
        have := Nat.lt_trans (Json.sizeOf_field?_lt hl) (Json.sizeOf_variant?_lt hv)
        have := Nat.lt_trans (Json.sizeOf_field?_lt hr) (Json.sizeOf_variant?_lt hv)
        let kind ← ExprKind.ofJson? (← payload.field? Expression.fields "kind")
        let left ← ofJson? left
        let right ← ofJson? right
        some (.expression kind left right)
      | _, _ => none
    else ofVariant? name payload
  | _ => none
termination_by sizeOf j

end Operand

namespace Expression

/-- An expression in JSON. -/
def toJson (e : Expression) : Json :=
  .object [("kind", e.kind.toJson), ("left", e.left.toJson), ("right", e.right.toJson)]

/-- The expression of a JSON value. -/
def ofJson? (j : Json) : Option Expression := do
  let kind ← ExprKind.ofJson? (← j.field? fields "kind")
  let left ← Operand.ofJson? (← j.field? fields "left")
  let right ← Operand.ofJson? (← j.field? fields "right")
  some ⟨kind, left, right⟩

end Expression

namespace Filter

/-- The fields of a filter. -/
def fields : List String := ["paths", "root"]

/-- A filter in JSON. -/
def toJson (filter : Filter) : Json :=
  .object [("paths", filter.paths.toJson), ("root", filter.root.toJson)]

/-- The filter of a JSON value. -/
def ofJson? (j : Json) : Option Filter := do
  let paths ← FieldArena.ofJson? (← j.field? fields "paths")
  let root ← Expression.ofJson? (← j.field? fields "root")
  some ⟨paths, root⟩

/-- The compact text of a filter. -/
def write (filter : Filter) : String := filter.toJson.write

end Filter

end FilterQuery
