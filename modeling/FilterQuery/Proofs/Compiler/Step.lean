import FilterQuery.Compiler
import Mathlib.Tactic.Use

/-!
# One step of compiling

`Compiler.node` is the query of an expression that is not too deep, from a way to compile the
operands it may join.  Compiling an expression is the check of its depth, an event, and a node.
-/

namespace FilterQuery

/-- Two results after each other make something only when both do. -/
theorem exists_of_bind_eq_ok {α β : Type} {first : Except FilterError α}
    {next : α → Except FilterError β} {y : β} (h : (first >>= next) = .ok y) :
  ∃ x, first = .ok x ∧ next x = .ok y
  := by
  cases first with
  | error error => cases h
  | ok x =>
    use x, rfl
    apply h

namespace Compiler

/-- The query of an expression, with `sub` for the operands that are expressions again. -/
def node (c : Compiler) (paths : FieldArena) (sub : Operand → Traced Query) (kind : ExprKind)
    (left right : Operand) : Traced Query :=
  match kind with
  | .and => do
    let first ← sub left
    let second ← sub right
    pure (.and [first, second])
  | .or => do
    let first ← sub left
    let second ← sub right
    pure (.or [first, second])
  | .equal => Traced.lift (c.equality paths left right)
  | .notEqual => Traced.lift (c.inequality paths left right)
  | .greaterThan => Traced.lift (c.comparison paths .greaterThan .gt left right)
  | .greaterThanOrEqual => Traced.lift (c.comparison paths .greaterThanOrEqual .gte left right)
  | .lessThan => Traced.lift (c.comparison paths .lessThan .lt left right)
  | .lessThanOrEqual => Traced.lift (c.comparison paths .lessThanOrEqual .lte left right)
  | .function => c.application paths left right

section Lemmas

variable (c : Compiler) (paths : FieldArena) (parent kind : ExprKind) (left right : Operand)

/-- An expression that is too deep is not entered. -/
theorem operand_of_lt {depth : Nat} (h : c.settings.maxDepth < depth) :
  c.operand paths parent depth (.expression kind left right)
    = Traced.fail (.depthExceeded c.settings.maxDepth)
  := by
  simp only [operand, if_pos h]

/-- An expression that is not too deep is entered, and its operands are one deeper. -/
theorem operand_of_le {depth : Nat} (h : depth ≤ c.settings.maxDepth) :
  c.operand paths parent depth (.expression kind left right)
    = (do
        Traced.emit (.entered kind depth)
        c.node paths (c.operand paths kind (depth + 1)) kind left right)
  := by
  simp only [operand, if_neg (Nat.not_lt.2 h)]
  cases kind <;> rfl

/-- The result of an expression that is not too deep is that of its node. -/
theorem result_operand_of_le {depth : Nat} (h : depth ≤ c.settings.maxDepth) :
  (c.operand paths parent depth (.expression kind left right)).result
    = (c.node paths (c.operand paths kind (depth + 1)) kind left right).result
  := by
  rw [operand_of_le c paths parent kind left right h, Traced.result_emit_bind]

/-- The result of a filter is that of its root. -/
theorem result_compile (filter : Filter) :
  (c.compile filter).result
    = (c.operand filter.paths filter.root.kind 1 filter.root.toOperand).result
  := by
  rw [compile, expression]
  cases h : (c.operand filter.paths filter.root.kind 1 filter.root.toOperand).result with
  | error error => simp [Bind.bind, Traced.bind, h]
  | ok query => simp [Bind.bind, Traced.bind, h, Traced.emit]

end Lemmas

end Compiler

end FilterQuery
