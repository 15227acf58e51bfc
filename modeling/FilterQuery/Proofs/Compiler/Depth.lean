import FilterQuery.Proofs.Compiler.Step

/-!
# The limit on the depth of expressions

The height of a filter is the number of expressions on the longest way down from its root through
conjunctions and disjunctions.  An operand that becomes a query is not higher than the limit allows,
limits that are not less than its height are all the same to it, and a run that a limit does not
stop is the same under every greater limit.
-/

namespace FilterQuery

/-! ### Heights -/

/-- Whether expressions of a kind have expressions as operands. -/
def ExprKind.joins : ExprKind → Bool
  | .and => true
  | .or => true
  | _ => false

/-- The number of expressions on the longest way down from an operand. -/
def Operand.height : Operand → Nat
  | .expression kind left right => if kind.joins then max left.height right.height + 1 else 1
  | _ => 0

theorem Operand.height_expression_pos (kind : ExprKind) (left right : Operand) :
  0 < (Operand.expression kind left right).height
  := by
  rw [height]
  split <;> omega

/-- The number of expressions on the longest way down from the root of a filter. -/
def Filter.height (filter : Filter) : Nat := filter.root.toOperand.height

/-- The query that joins others, for a kind that does. -/
def ExprKind.join : ExprKind → List Query → Query
  | .or => .or
  | _ => .and

/-- The compiler with another limit. -/
def Compiler.withMaxDepth (c : Compiler) (limit : Nat) : Compiler :=
  { c with settings := { c.settings with maxDepth := limit } }

/-! ### Runs that a limit stops -/

namespace Traced

variable {α β : Type} {run : Traced α} {next other : α → Traced β} {x : α}

/-- Whether a run fails because something is too deep. -/
def IsTooDeep (run : Traced α) : Prop := ∃ limit, run.result = .error (.depthExceeded limit)

theorem IsTooDeep.bind (h : run.IsTooDeep) (next : α → Traced β) :
  (run >>= next).IsTooDeep
  := by
  obtain ⟨limit, stopped⟩ := h
  obtain ⟨events, result⟩ := run
  cases stopped
  exact ⟨limit, rfl⟩

theorem IsTooDeep.of_next (made : run.result = .ok x) (h : (next x).IsTooDeep) :
  (run >>= next).IsTooDeep
  := by
  obtain ⟨limit, stopped⟩ := h
  obtain ⟨events, result⟩ := run
  cases made
  exact ⟨limit, stopped⟩

/-- What comes after a run matters only for what the run makes. -/
theorem bind_congr_of_ok (h : ∀ x, run.result = .ok x → next x = other x) :
  (run >>= next) = (run >>= other)
  := by
  obtain ⟨events, result⟩ := run
  cases result with
  | error => rfl
  | ok x =>
    change Traced.bind _ _ = Traced.bind _ _
    simp only [Traced.bind, h x rfl]

end Traced

namespace Compiler

section Limits

variable (c : Compiler) (paths : FieldArena)

/-! ### One node -/

section Node

variable {kind : ExprKind} {sub other : Operand → Traced Query} {left right : Operand}

theorem node_of_joins (h : kind.joins) :
  c.node paths sub kind left right
    = (do
        let first ← sub left
        let second ← sub right
        pure (kind.join [first, second]))
  := by
  cases kind with
  | and => rfl
  | or => rfl
  | _ => cases h

/-- A node that joins nothing does not compile its operands as expressions. -/
theorem node_of_not_joins (h : ¬ kind.joins) (other : Operand → Traced Query) :
  c.node paths sub kind left right = c.node paths other kind left right
  := by
  cases kind with
  | and => cases h rfl
  | or => cases h rfl
  | _ => rfl

/-- A node looks at no limit. -/
theorem node_withMaxDepth (limit : Nat) :
  (c.withMaxDepth limit).node paths sub kind left right = c.node paths sub kind left right
  := by
  cases kind <;> rfl

/-- Two ways to compile operands give the same node if they agree where the first is not stopped. -/
theorem node_eq_of_agree (onLeft : ¬ (sub left).IsTooDeep → other left = sub left)
    (onRight : ¬ (sub right).IsTooDeep → other right = sub right)
    (h : ¬ (c.node paths sub kind left right).IsTooDeep) :
  c.node paths other kind left right = c.node paths sub kind left right
  := by
  by_cases joins : kind.joins
  · rw [node_of_joins c paths joins] at h
    rw [node_of_joins c paths joins, node_of_joins c paths joins,
      onLeft fun stopped => h (stopped.bind _)]
    apply Traced.bind_congr_of_ok
    intro first made
    rw [onRight fun stopped => h (.of_next made (stopped.bind _))]
  · apply node_of_not_joins c paths joins

end Node

/-! ### Greater limits -/

/-- An operand that is compiled without being stopped by a limit is compiled in the same way under
a greater one. -/
theorem operand_withMaxDepth_of_le {n m : Nat} (le : n ≤ m) {o : Operand} {parent : ExprKind}
    {depth : Nat} (h : ¬ ((c.withMaxDepth n).operand paths parent depth o).IsTooDeep) :
  (c.withMaxDepth m).operand paths parent depth o = (c.withMaxDepth n).operand paths parent depth o
  := by
  induction o generalizing parent depth with
  | expression kind left right onLeft onRight =>
    by_cases within : depth ≤ n
    · rw [operand_of_le (c.withMaxDepth n) paths parent kind left right within] at h
      rw [operand_of_le (c.withMaxDepth n) paths parent kind left right within,
        operand_of_le (c.withMaxDepth m) paths parent kind left right (Nat.le_trans within le)]
      rw [node_withMaxDepth] at h
      rw [node_withMaxDepth, node_withMaxDepth,
        node_eq_of_agree c paths onLeft onRight fun stopped => h (.of_next rfl stopped)]
    · rw [operand_of_lt (c.withMaxDepth n) paths parent kind left right
        (Nat.lt_of_not_le within)] at h
      cases h ⟨n, rfl⟩
  | _ => rfl

/-- Limits that are not less than the height of an operand are all the same to it. -/
theorem operand_withMaxDepth_of_height {n m : Nat} {o : Operand} {parent : ExprKind} {depth : Nat}
    (hn : depth + o.height ≤ n + 1) (hm : depth + o.height ≤ m + 1) :
  (c.withMaxDepth m).operand paths parent depth o = (c.withMaxDepth n).operand paths parent depth o
  := by
  induction o generalizing parent depth with
  | expression kind left right onLeft onRight =>
    have positive := Operand.height_expression_pos kind left right
    rw [operand_of_le (c.withMaxDepth n) paths parent kind left right
        (by change depth ≤ n; omega),
      operand_of_le (c.withMaxDepth m) paths parent kind left right
        (by change depth ≤ m; omega),
      node_withMaxDepth, node_withMaxDepth]
    by_cases joins : kind.joins
    · rw [Operand.height, if_pos joins] at hn hm
      rw [node_of_joins c paths joins, node_of_joins c paths joins, onLeft (by omega) (by omega),
        onRight (by omega) (by omega)]
    · rw [node_of_not_joins c paths joins]
  | _ => rfl

/-- Limits that are not less than the height of a filter are all the same to it. -/
theorem compile_withMaxDepth_of_height {n m : Nat} {filter : Filter} (hn : filter.height ≤ n)
    (hm : filter.height ≤ m) :
  (c.withMaxDepth m).compile filter = (c.withMaxDepth n).compile filter
  := by
  have same : (c.withMaxDepth m).operand filter.paths filter.root.kind 1 filter.root.toOperand
      = (c.withMaxDepth n).operand filter.paths filter.root.kind 1 filter.root.toOperand := by
    apply operand_withMaxDepth_of_height
    · rw [Nat.add_comm 1]
      apply Nat.succ_le_succ hn
    · rw [Nat.add_comm 1]
      apply Nat.succ_le_succ hm
  rw [compile, compile, expression, expression, same]

/-- An operand that is compiled to a query is not higher than the limit allows. -/
theorem depth_add_height_le {o : Operand} {parent : ExprKind} {depth : Nat} {q : Query}
    (h : (c.operand paths parent depth o).result = .ok q) :
  depth + o.height ≤ c.settings.maxDepth + 1
  := by
  induction o generalizing parent depth q with
  | expression kind left right leftHeight rightHeight =>
    by_cases within : depth ≤ c.settings.maxDepth
    · rw [result_operand_of_le c paths parent kind left right within] at h
      rw [Operand.height]
      split
      · next joins =>
        rw [node_of_joins c paths joins] at h
        obtain ⟨first, isFirst, h⟩ := Traced.result_bind_eq_ok.1 h
        obtain ⟨second, isSecond, -⟩ := Traced.result_bind_eq_ok.1 h
        have := leftHeight isFirst
        have := rightHeight isSecond
        omega
      · omega
    · rw [operand_of_lt c paths parent kind left right (Nat.lt_of_not_le within)] at h
      cases h
  | _ => cases h

end Limits

end Compiler

end FilterQuery
