import FilterQuery.Bson.Encoder
import FilterQuery.Filter.Reader
import FilterQuery.Function.Builtin
import FilterQuery.Settings

/-!
# Compiling filters

A `Compiler` turns filters into queries of a document store.  It goes through the tree of a filter
from the root, an operand on the left before one on the right, and stops at the first fault.
-/

namespace FilterQuery

/-- A way to turn filters into queries. -/
structure Compiler where
  encoder : Encoder
  registry : FunctionRegistry
  settings : Settings

namespace Compiler

/-- The compiler that was given nothing. -/
def default : Compiler := ⟨.bson, .builtin, .default⟩

/-- The compiler with another encoder. -/
def withEncoder (c : Compiler) (encoder : Encoder) : Compiler := { c with encoder }

/-- The compiler with another registry. -/
def withRegistry (c : Compiler) (registry : FunctionRegistry) : Compiler := { c with registry }

/-- The compiler with other settings, if they have no fault. -/
def withSettings (c : Compiler) (settings : Settings) : Except SettingsFault Compiler :=
  settings.validate.map fun _ => { c with settings }

/-- The name of a segment in the store. -/
def segmentName (c : Compiler) (name : String) : String :=
  if name = "Id" ∨ name = "id" then c.settings.identityField else name

/-- The path of a field in the store. -/
def resolve? (c : Compiler) (paths : FieldArena) (field : FieldRef) : Option String :=
  (paths.segments? field).map fun names => dottedPath (names.map c.segmentName)

/-- The path that the left operand of a node names: that of a field, or a string as it is. -/
def path (c : Compiler) (paths : FieldArena) (kind : ExprKind) :
    Operand → Except FilterError String
  | .field ref =>
    match c.resolve? paths ref with
    | some path => .ok path
    | none => .error (.invalidOperand kind (.dangling ref))
  | .literal (.string path) => .ok path
  | other => .error (.invalidOperand kind (.notPath other.shape))

/-- The field lies in a range. -/
def inside (c : Compiler) (field : String) (range : Range) : Query :=
  .and [.gte field (c.encoder.encode range.start), .lte field (c.encoder.encode range.stop)]

/-- The field lies outside a range or at one of its ends. -/
def outside (c : Compiler) (field : String) (range : Range) : Query :=
  .or [.lte field (c.encoder.encode range.start), .gte field (c.encoder.encode range.stop)]

/-- The field is equal to a literal, in a range or in a list. -/
def equality (c : Compiler) (paths : FieldArena) (left right : Operand) :
    Except FilterError Query := do
  let field ← c.path paths .equal left
  match right with
  | .range range => .ok (c.inside field range)
  | .list values => .ok (.isIn field (c.encoder.encodeAll values))
  | .literal value => .ok (.eq field (c.encoder.encode value))
  | other => .error (.invalidOperand .equal (.notComparable other.shape))

/-- The field is not equal to a literal, outside a range or not in a list. -/
def inequality (c : Compiler) (paths : FieldArena) (left right : Operand) :
    Except FilterError Query := do
  let field ← c.path paths .notEqual left
  match right with
  | .range range => .ok (c.outside field range)
  | .list values => .ok (.notIn field (c.encoder.encodeAll values))
  | .literal value => .ok (.ne field (c.encoder.encode value))
  | other => .error (.invalidOperand .notEqual (.notComparable other.shape))

/-- The field is compared with a literal. -/
def comparison (c : Compiler) (paths : FieldArena) (kind : ExprKind)
    (operator : String → Bson → Query) (left right : Operand) : Except FilterError Query := do
  let field ← c.path paths kind left
  match right with
  | .literal value => .ok (operator field (c.encoder.encode value))
  | other => .error (.invalidOperand kind (.notScalar other.shape))

/-- A function is applied to the field. -/
def application (c : Compiler) (paths : FieldArena) (left right : Operand) : Traced Query :=
  match right with
  | .call call =>
    match left with
    | .field ref => do
      let field ← Traced.lift (c.path paths .function (.field ref))
      c.registry.call call.name field call.args
    | _ => Traced.fail (.invalidOperand .function (.notOnField call.name))
  | other => Traced.fail (.invalidOperand .function (.notCall other.shape))

/-- The query of an operand of a node of the kind `parent`; it has to be an expression. -/
def operand (c : Compiler) (paths : FieldArena) (parent : ExprKind) (depth : Nat) :
    Operand → Traced Query
  | .expression kind left right =>
    if c.settings.maxDepth < depth then Traced.fail (.depthExceeded c.settings.maxDepth)
    else do
      Traced.emit (.entered kind depth)
      match kind with
      | .and =>
        let first ← c.operand paths .and (depth + 1) left
        let second ← c.operand paths .and (depth + 1) right
        pure (.and [first, second])
      | .or =>
        let first ← c.operand paths .or (depth + 1) left
        let second ← c.operand paths .or (depth + 1) right
        pure (.or [first, second])
      | .equal => Traced.lift (c.equality paths left right)
      | .notEqual => Traced.lift (c.inequality paths left right)
      | .greaterThan => Traced.lift (c.comparison paths .greaterThan .gt left right)
      | .greaterThanOrEqual => Traced.lift (c.comparison paths .greaterThanOrEqual .gte left right)
      | .lessThan => Traced.lift (c.comparison paths .lessThan .lt left right)
      | .lessThanOrEqual => Traced.lift (c.comparison paths .lessThanOrEqual .lte left right)
      | .function => c.application paths left right
  | other => Traced.fail (.invalidOperand parent (.notExpression other.shape))

/-- The query of an expression at a given depth. -/
def expression (c : Compiler) (paths : FieldArena) (depth : Nat) (e : Expression) : Traced Query :=
  c.operand paths e.kind depth e.toOperand

/-- The query of a filter. -/
def compile (c : Compiler) (filter : Filter) : Traced Query := do
  let query ← c.expression filter.paths 1 filter.root
  Traced.emit (.compiled query)
  pure query

/-- The query of the text of a filter. -/
def compileText (c : Compiler) (s : String) : Traced Query := do
  let filter ← Filter.read s
  c.compile filter

end Compiler

end FilterQuery
