import FilterQuery.Proofs.Condition.Normal

/-!
# Filters without functions

Whether a function accepts its arguments is up to the function.  Of a filter without functions all
is known: it is accepted exactly when it is not higher than the limit and expresses a condition, and
its query is this condition in the language of the store.
-/

namespace FilterQuery

/-- The kinds of the expressions in an operand, in order. -/
def Operand.kinds : Operand → List ExprKind
  | .expression kind left right => kind :: (left.kinds ++ right.kinds)
  | _ => []

section Uncalled

variable (c : Compiler) (paths : FieldArena)

/-- An operand without functions makes the query of its condition, if it is not too high. -/
theorem toOption_operand {o : Operand} (uncalled : .function ∉ o.kinds) (parent : ExprKind)
    (depth : Nat) :
  (c.operand paths parent depth o).result.toOption
    = if depth + o.height ≤ c.settings.maxDepth + 1 then
        (o.condition? c paths).map Condition.toQuery
      else none
  := by
  induction o generalizing parent depth with
  | expression kind left right onLeft onRight =>
    rw [Operand.kinds, List.mem_cons, List.mem_append, not_or, not_or] at uncalled
    obtain ⟨other, leftUncalled, rightUncalled⟩ := uncalled
    by_cases within : depth ≤ c.settings.maxDepth
    case neg =>
      have positive := Operand.height_expression_pos kind left right
      rw [Compiler.operand_of_lt _ _ _ _ _ _ (Nat.lt_of_not_le within), if_neg (by omega)]
      rfl
    rw [Compiler.result_operand_of_le _ _ _ _ _ _ within]
    by_cases joins : kind.joins
    case neg =>
      rw [toOption_node _ _ _ _ _ joins (Ne.symm other), Operand.height, if_neg joins, if_pos]
      omega
    rw [c.node_of_joins paths joins, Traced.toOption_result_bind, onLeft leftUncalled]
    simp only [Traced.toOption_result_bind, onRight rightUncalled]
    rw [condition?_of_joins _ _ _ _ joins, Operand.height, if_pos joins]
    by_cases leftFits : depth + 1 + left.height ≤ c.settings.maxDepth + 1
    case neg =>
      rw [if_neg leftFits, Option.bind_none, if_neg (by omega)]
    by_cases rightFits : depth + 1 + right.height ≤ c.settings.maxDepth + 1
    case neg =>
      rw [if_neg rightFits]
      simp only [Option.bind_none, Option.bind_fun_none]
      rw [if_neg (by omega)]
    rw [if_pos leftFits, if_pos rightFits, if_pos (by omega)]
    cases left.condition? c paths with
    | none => rfl
    | some m =>
      cases right.condition? c paths with
      | none => rfl
      | some n => exact congrArg some (toQuery_joinConditions joins m n).symm
  | _ => exact (ite_self none).symm

end Uncalled

/-- A filter without functions becomes a query exactly when it is not higher than the limit, and
then the query is the condition it expresses, in the language of the store. -/
theorem result_compile_eq_ok_iff (c : Compiler) {filter : Filter}
    (uncalled : .function ∉ filter.root.toOperand.kinds) (q : Query) :
  (c.compile filter).result = .ok q
    ↔ filter.height ≤ c.settings.maxDepth ∧ ∃ m, filter.condition? c = some m ∧ m.toQuery = q
  := by
  have made := toOption_operand c filter.paths uncalled filter.root.kind 1
  have asOption : ∀ result : Except FilterError Query,
      result = .ok q ↔ result.toOption = some q := by
    rintro (error | q') <;> simp [Except.toOption]
  rw [Compiler.result_compile, asOption, made, Filter.height, Filter.condition?]
  simp only [Option.ite_none_right_eq_some, Option.map_eq_some_iff, Nat.add_comm 1,
    Nat.add_le_add_iff_right]

end FilterQuery
