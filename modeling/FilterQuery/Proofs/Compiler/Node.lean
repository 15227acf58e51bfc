import FilterQuery.Proofs.Compiler.Depth
import FilterQuery.Proofs.Compiler.Faults

/-!
# What is wrong with one expression

The faults of a tree are those of its expressions.  `Compiler.ownFaults` are the faults of one
expression apart from those below it: operands of the wrong shape, a path that is not there, or a
call that is refused.  An expression that joins nothing has no others, and it writes to the log only
when it looks a function up in vain.
-/

namespace FilterQuery

/-- What is wrong with an operand that has to be an expression. -/
def nestedFaults (kind : ExprKind) : Operand → List FilterError
  | .expression _ _ _ => []
  | other => [.invalidOperand kind (.notExpression other.shape)]

namespace Compiler

/-- What is wrong with the operands of an expression, apart from the expressions in them. -/
def ownFaults (c : Compiler) (paths : FieldArena) (kind : ExprKind) (left right : Operand) :
    List FilterError :=
  match kind with
  | .and => nestedFaults .and left ++ nestedFaults .and right
  | .or => nestedFaults .or left ++ nestedFaults .or right
  | .equal => pathFaults paths .equal left ++ comparedFaults .equal right
  | .notEqual => pathFaults paths .notEqual left ++ comparedFaults .notEqual right
  | .function => c.applicationFaults paths left right
  | kind => pathFaults paths kind left ++ scalarFaults kind right

/-- The name of the function that an expression looks up in vain, if it comes to look it up. -/
def missingFunction? (c : Compiler) (paths : FieldArena) (kind : ExprKind)
    (left right : Operand) : Option String :=
  match kind, right, left with
  | .function, .call call, .field ref =>
    if (paths.segments? ref).isSome ∧ (c.registry.get? call.name).isNone then some call.name
    else none
  | _, _, _ => none

section Node

variable (c : Compiler) (paths : FieldArena) {parent kind : ExprKind} {left right : Operand}

/-! ### The faults of a tree -/

theorem faults_of_lt {depth : Nat} (h : c.settings.maxDepth < depth) :
  c.faults paths parent depth (.expression kind left right)
    = [.depthExceeded c.settings.maxDepth]
  := by
  simp only [faults, if_pos h]

/-- The faults of an expression that joins others are theirs. -/
theorem faults_of_joins {depth : Nat} (h : depth ≤ c.settings.maxDepth) (joins : kind.joins) :
  c.faults paths parent depth (.expression kind left right)
    = c.faults paths kind (depth + 1) left ++ c.faults paths kind (depth + 1) right
  := by
  simp only [faults, if_neg (Nat.not_lt.2 h)]
  cases kind with
  | and => rfl
  | or => rfl
  | _ => cases joins

/-- An expression that joins nothing has no faults but its own. -/
theorem faults_of_not_joins {depth : Nat} (h : depth ≤ c.settings.maxDepth)
    (leaf : ¬ kind.joins) :
  c.faults paths parent depth (.expression kind left right) = c.ownFaults paths kind left right
  := by
  simp only [faults, if_neg (Nat.not_lt.2 h)]
  cases kind with
  | and => cases leaf rfl
  | or => cases leaf rfl
  | _ => rfl

theorem ownFaults_of_joins (joins : kind.joins) :
  c.ownFaults paths kind left right = nestedFaults kind left ++ nestedFaults kind right
  := by
  cases kind with
  | and => rfl
  | or => rfl
  | _ => cases joins

/-! ### One expression compiled -/

variable {sub : Operand → Traced Query}

/-- An expression that joins nothing fails with the first of its own faults. -/
theorem errorOf?_node (leaf : ¬ kind.joins) :
  errorOf? (c.node paths sub kind left right).result
    = (c.ownFaults paths kind left right).head?
  := by
  cases kind with
  | and => cases leaf rfl
  | or => cases leaf rfl
  | equal => apply errorOf?_equality
  | notEqual => apply errorOf?_inequality
  | function => apply errorOf?_application
  | _ => apply errorOf?_comparison

/-- The only event of an expression that joins nothing is that a function was looked up in vain. -/
theorem events_node (leaf : ¬ kind.joins) :
  (c.node paths sub kind left right).events
    = (c.missingFunction? paths kind left right).toList.map .unsupportedFunction
  := by
  cases kind with
  | and => cases leaf rfl
  | or => cases leaf rfl
  | function =>
    cases right with
    | call call =>
      cases left with
      | field ref =>
        simp only [node, application, path, resolve?, missingFunction?]
        cases paths.segments? ref with
        | none => rfl
        | some names =>
          simp only [Option.map_some, Traced.lift_ok_bind, FunctionRegistry.call]
          cases c.registry.get? call.name <;> rfl
      | _ => rfl
    | _ => rfl
  | _ => rfl

/-- A function that is looked up in vain is what is wrong with the expression. -/
theorem ownFaults_of_missingFunction? {name : String}
    (h : c.missingFunction? paths kind left right = some name) :
  c.ownFaults paths kind left right = [.unsupportedFunction name]
  := by
  unfold missingFunction? at h
  split at h
  · next call ref =>
    split at h
    · next missing =>
      obtain ⟨names, found⟩ := Option.isSome_iff_exists.1 missing.1
      cases h
      simp only [ownFaults, applicationFaults, pathFaults, callFaults, resolve?, found,
        Option.isNone_iff_eq_none.1 missing.2]
      rfl
    · cases h
  · cases h

end Node

end Compiler

end FilterQuery
