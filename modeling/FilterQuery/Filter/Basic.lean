import FilterQuery.FieldArena.Basic
import FilterQuery.Filter.Kind
import FilterQuery.Value.Basic

/-!
# Filters

A filter is a tree of conditions on the fields of a document.  A node of the tree, an `Expression`,
has a kind and two operands; an `Operand` is a node again, a field, or data to compare with.  The
fields are references into an arena, and a `Filter` is a tree with its arena.
-/

namespace FilterQuery

/-- The interval between two values, both included. -/
structure Range where
  start : Value
  stop : Value
deriving DecidableEq

/-- A function by its name, with the arguments that follow the field. -/
structure FunctionCall where
  name : String
  args : List Value
deriving DecidableEq

/-- One side of an expression. -/
inductive Operand where
  | expression (kind : ExprKind) (left right : Operand)
  | field (ref : FieldRef)
  | literal (value : Value)
  | range (range : Range)
  | list (values : List Value)
  | call (call : FunctionCall)
deriving DecidableEq

/-- The shape of an operand. -/
inductive Shape where
  | expression
  | field
  | literal
  | range
  | list
  | call
deriving DecidableEq

/-- The name of a shape in messages. -/
def Shape.name : Shape → String
  | .expression => "expression"
  | .field => "field reference"
  | .literal => "literal"
  | .range => "range"
  | .list => "list"
  | .call => "function"

/-- The shape of an operand. -/
def Operand.shape : Operand → Shape
  | .expression _ _ _ => .expression
  | .field _ => .field
  | .literal _ => .literal
  | .range _ => .range
  | .list _ => .list
  | .call _ => .call

/-- A node of the tree of a filter. -/
structure Expression where
  kind : ExprKind
  left : Operand
  right : Operand
deriving DecidableEq

namespace Expression

/-- An expression as an operand. -/
def toOperand (e : Expression) : Operand := .expression e.kind e.left e.right

/-- Both conditions hold. -/
def and (left right : Expression) : Expression := ⟨.and, left.toOperand, right.toOperand⟩

/-- One of the conditions holds. -/
def or (left right : Expression) : Expression := ⟨.or, left.toOperand, right.toOperand⟩

/-- A field is equal to a literal, in a range or in a list. -/
def eq (field : FieldRef) (right : Operand) : Expression := ⟨.equal, .field field, right⟩

/-- A field is not equal to a literal, not in a range or not in a list. -/
def ne (field : FieldRef) (right : Operand) : Expression := ⟨.notEqual, .field field, right⟩

/-- A field is greater than a value. -/
def gt (field : FieldRef) (value : Value) : Expression :=
  ⟨.greaterThan, .field field, .literal value⟩

/-- A field is greater than a value or equal to it. -/
def gte (field : FieldRef) (value : Value) : Expression :=
  ⟨.greaterThanOrEqual, .field field, .literal value⟩

/-- A field is less than a value. -/
def lt (field : FieldRef) (value : Value) : Expression :=
  ⟨.lessThan, .field field, .literal value⟩

/-- A field is less than a value or equal to it. -/
def lte (field : FieldRef) (value : Value) : Expression :=
  ⟨.lessThanOrEqual, .field field, .literal value⟩

/-- A function is applied to a field. -/
def call (field : FieldRef) (name : String) (args : List Value) : Expression :=
  ⟨.function, .field field, .call ⟨name, args⟩⟩

end Expression

/-- A tree of conditions with the arena its references point into. -/
structure Filter where
  paths : FieldArena
  root : Expression
deriving DecidableEq

end FilterQuery
