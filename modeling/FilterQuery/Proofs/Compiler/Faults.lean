import FilterQuery.Proofs.Compiler.Step

/-!
# The faults of a filter

`Compiler.faults` lists all that is wrong with a tree of conditions, not only what is found first:
the operands of a conjunction or disjunction one after the other, at any other node its left operand
before its right one.  A node that is too deep counts as one fault, and nothing below it is listed.
The main statement is that compiling a filter makes a query exactly when the list is empty, and
otherwise fails with the first fault of the list.
-/

namespace FilterQuery

/-- The error of a result that is one. -/
def errorOf? {α : Type} : Except FilterError α → Option FilterError
  | .error error => some error
  | .ok _ => none

theorem eq_error_of_errorOf? {α : Type} {result : Except FilterError α} {error : FilterError}
    (h : errorOf? result = some error) :
  result = .error error
  := by
  cases result with
  | error => rw [Option.some.inj h]
  | ok => cases h

/-- What is wrong with an operand that has to name a path. -/
def pathFaults (paths : FieldArena) (kind : ExprKind) : Operand → List FilterError
  | .field ref =>
    if (paths.segments? ref).isNone then [.invalidOperand kind (.dangling ref)] else []
  | .literal (.string _) => []
  | other => [.invalidOperand kind (.notPath other.shape)]

/-- What is wrong with an operand that a field is equal or not equal to. -/
def comparedFaults (kind : ExprKind) : Operand → List FilterError
  | .range _ => []
  | .list _ => []
  | .literal _ => []
  | other => [.invalidOperand kind (.notComparable other.shape)]

/-- What is wrong with an operand that has to be a literal. -/
def scalarFaults (kind : ExprKind) : Operand → List FilterError
  | .literal _ => []
  | other => [.invalidOperand kind (.notScalar other.shape)]

namespace Compiler

/-- What is wrong with a call on a field: there is no such function, or the function refuses its
arguments. -/
def callFaults (c : Compiler) (paths : FieldArena) (ref : FieldRef) (call : FunctionCall) :
    List FilterError :=
  match c.registry.get? call.name, c.resolve? paths ref with
  | none, _ => [.unsupportedFunction call.name]
  | some handler, some path => (errorOf? (handler path call.args)).toList
  | some _, none => []

/-- What is wrong with the operands of a function. -/
def applicationFaults (c : Compiler) (paths : FieldArena) (left : Operand) :
    Operand → List FilterError
  | .call call =>
    match left with
    | .field ref => pathFaults paths .function (.field ref) ++ c.callFaults paths ref call
    | _ => [.invalidOperand .function (.notOnField call.name)]
  | other => [.invalidOperand .function (.notCall other.shape)]

/-- What is wrong with an operand of a node of the kind `parent`; it has to be an expression. -/
def faults (c : Compiler) (paths : FieldArena) (parent : ExprKind) (depth : Nat) :
    Operand → List FilterError
  | .expression kind left right =>
    if c.settings.maxDepth < depth then [.depthExceeded c.settings.maxDepth]
    else
      match kind with
      | .and => c.faults paths .and (depth + 1) left ++ c.faults paths .and (depth + 1) right
      | .or => c.faults paths .or (depth + 1) left ++ c.faults paths .or (depth + 1) right
      | .equal => pathFaults paths .equal left ++ comparedFaults .equal right
      | .notEqual => pathFaults paths .notEqual left ++ comparedFaults .notEqual right
      | .greaterThan => pathFaults paths .greaterThan left ++ scalarFaults .greaterThan right
      | .greaterThanOrEqual =>
        pathFaults paths .greaterThanOrEqual left ++ scalarFaults .greaterThanOrEqual right
      | .lessThan => pathFaults paths .lessThan left ++ scalarFaults .lessThan right
      | .lessThanOrEqual =>
        pathFaults paths .lessThanOrEqual left ++ scalarFaults .lessThanOrEqual right
      | .function => c.applicationFaults paths left right
  | other => [.invalidOperand parent (.notExpression other.shape)]

/-- What is wrong with a filter.  Its root has the depth 1. -/
def filterFaults (c : Compiler) (filter : Filter) : List FilterError :=
  c.faults filter.paths filter.root.kind 1 filter.root.toOperand

end Compiler

/-! ### Runs that follow each other -/

/-- The error of two results after each other is that of the first, or else that of the second. -/
theorem errorOf?_bind {α β : Type} {first : Except FilterError α}
    {next : α → Except FilterError β} {error : Option FilterError}
    (h : ∀ x, first = .ok x → errorOf? (next x) = error) :
  errorOf? (first >>= next) = (errorOf? first).or error
  := by
  cases first with
  | error => rfl
  | ok x => apply h x rfl

/-- The error of two runs after each other is that of the first, or else that of the second. -/
theorem errorOf?_result_bind {α β : Type} {run : Traced α} {next : α → Traced β}
    {error : Option FilterError}
    (h : ∀ x, run.result = .ok x → errorOf? (next x).result = error) :
  errorOf? (run >>= next).result = (errorOf? run.result).or error
  := by
  obtain ⟨events, result⟩ := run
  cases result with
  | error => rfl
  | ok x => apply h x rfl

/-! ### The first fault of a node -/

section FirstFault

variable (c : Compiler) (paths : FieldArena) (kind : ExprKind) (left right : Operand)

/-- Naming a path fails exactly when the operand has a fault. -/
theorem errorOf?_path :
  errorOf? (c.path paths kind left) = (pathFaults paths kind left).head?
  := by
  cases left with
  | field ref =>
    simp only [Compiler.path, pathFaults, Compiler.resolve?]
    cases paths.segments? ref <;> rfl
  | literal value => cases value <;> rfl
  | _ => rfl

theorem errorOf?_equality :
  errorOf? (c.equality paths left right)
    = (pathFaults paths .equal left ++ comparedFaults .equal right).head?
  := by
  rw [List.head?_append, ← errorOf?_path c]
  apply errorOf?_bind
  intro field _
  cases right <;> rfl

theorem errorOf?_inequality :
  errorOf? (c.inequality paths left right)
    = (pathFaults paths .notEqual left ++ comparedFaults .notEqual right).head?
  := by
  rw [List.head?_append, ← errorOf?_path c]
  apply errorOf?_bind
  intro field _
  cases right <;> rfl

theorem errorOf?_comparison (operator : String → Bson → Query) :
  errorOf? (c.comparison paths kind operator left right)
    = (pathFaults paths kind left ++ scalarFaults kind right).head?
  := by
  rw [List.head?_append, ← errorOf?_path c]
  apply errorOf?_bind
  intro field _
  cases right <;> rfl

/-- A path that was found is that of the field. -/
theorem resolve?_of_path {ref : FieldRef} {path : String}
    (h : c.path paths kind (.field ref) = .ok path) :
  c.resolve? paths ref = some path
  := by
  unfold Compiler.path at h
  cases found : c.resolve? paths ref with
  | none => simp [found] at h
  | some other => simpa [found] using h

/-- A call of a registry fails when the function is missing, or as the function does. -/
theorem errorOf?_call {ref : FieldRef} {path : String} (call : FunctionCall)
    (h : c.resolve? paths ref = some path) :
  errorOf? (c.registry.call call.name path call.args).result
    = (c.callFaults paths ref call).head?
  := by
  unfold FunctionRegistry.call Compiler.callFaults
  rw [h]
  cases c.registry.get? call.name with
  | none => rfl
  | some handler =>
    simp only [Traced.result_lift]
    cases handler path call.args <;> rfl

theorem errorOf?_application :
  errorOf? (c.application paths left right).result
    = (c.applicationFaults paths left right).head?
  := by
  cases right with
  | call call =>
    cases left with
    | field ref =>
      simp only [Compiler.applicationFaults, List.head?_append]
      rw [← errorOf?_path c]
      apply errorOf?_result_bind
      intro path found
      apply errorOf?_call
      apply resolve?_of_path c paths .function found
    | _ => rfl
  | _ => rfl

/-- A conjunction or disjunction fails as its first operand does, or else as its second. -/
theorem errorOf?_join {first second : Traced Query} (join : Query → Query → Query) :
  errorOf? (do
      let q ← first
      let r ← second
      pure (join q r)).result
    = (errorOf? first.result).or (errorOf? second.result)
  := by
  apply errorOf?_result_bind
  intro q _
  have joined : errorOf? (second >>= fun r => pure (join q r)).result
      = (errorOf? second.result).or none := by
    apply errorOf?_result_bind
    intro r _
    rfl
  rw [joined, Option.or_none]

/-- Compiling an operand fails with the first of its faults. -/
theorem errorOf?_operand (o : Operand) (parent : ExprKind) (depth : Nat) :
  errorOf? (c.operand paths parent depth o).result = (c.faults paths parent depth o).head?
  := by
  induction o generalizing parent depth with
  | expression kind left right leftFault rightFault =>
    by_cases h : c.settings.maxDepth < depth
    · rw [Compiler.operand_of_lt c paths parent kind left right h]
      simp [Compiler.faults, h, errorOf?]
    · rw [Compiler.result_operand_of_le c paths parent kind left right (Nat.le_of_not_lt h)]
      simp only [Compiler.faults, if_neg h]
      cases kind with
      | and =>
        rw [List.head?_append, ← leftFault, ← rightFault]
        apply errorOf?_join fun q r => .and [q, r]
      | or =>
        rw [List.head?_append, ← leftFault, ← rightFault]
        apply errorOf?_join fun q r => .or [q, r]
      | equal => apply errorOf?_equality
      | notEqual => apply errorOf?_inequality
      | greaterThan => apply errorOf?_comparison
      | greaterThanOrEqual => apply errorOf?_comparison
      | lessThan => apply errorOf?_comparison
      | lessThanOrEqual => apply errorOf?_comparison
      | function => apply errorOf?_application
  | _ => rfl

end FirstFault

/-- Compiling a filter makes a query exactly when the filter has no faults, and it fails exactly
with the first of them. -/
theorem compile_eq_first_fault (c : Compiler) (filter : Filter) :
  ((∃ q, (c.compile filter).result = .ok q) ↔ c.filterFaults filter = [])
    ∧ ∀ error, (c.compile filter).result = .error error
        ↔ (c.filterFaults filter).head? = some error
  := by
  have first := errorOf?_operand c filter.paths filter.root.toOperand filter.root.kind 1
  rw [← Compiler.result_compile] at first
  change _ = (c.filterFaults filter).head? at first
  rw [← first, ← List.head?_eq_none_iff, ← first]
  cases (c.compile filter).result with
  | error => simp [errorOf?]
  | ok q => simp [errorOf?]

end FilterQuery
