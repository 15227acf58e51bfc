import FilterQuery.Proofs.Compiler.Log
import FilterQuery.Proofs.FieldArena.Owners

/-!
# Expressions that compiling reaches

An expression in the right operand of a conjunction or disjunction is compiled only after the left
operand has become a query.  The expressions that a compiler `Reaches` are those it writes to the
log.  If it reaches an expression that joins no others, the first fault of that expression is the
error of the filter.  So is a field from which there is no way up in the arena, wherever an
expression that is reached has it as a path.
-/

namespace FilterQuery

namespace Compiler

/-- Whether compiling an operand reaches an expression. -/
inductive Reaches (c : Compiler) (paths : FieldArena) : Nat → Operand → Visit → Prop
  | here {depth : Nat} {kind : ExprKind} {left right : Operand}
      (within : depth ≤ c.settings.maxDepth) :
    Reaches c paths depth (.expression kind left right) ⟨depth, kind, left, right⟩
  | left {depth : Nat} {kind : ExprKind} {left right : Operand} {visit : Visit}
      (within : depth ≤ c.settings.maxDepth) (joins : kind.joins)
      (below : Reaches c paths (depth + 1) left visit) :
    Reaches c paths depth (.expression kind left right) visit
  | right {depth : Nat} {kind : ExprKind} {left right : Operand} {visit : Visit} {q : Query}
      (within : depth ≤ c.settings.maxDepth) (joins : kind.joins)
      (made : (c.operand paths kind (depth + 1) left).result = .ok q)
      (below : Reaches c paths (depth + 1) right visit) :
    Reaches c paths depth (.expression kind left right) visit

section Reached

variable {c : Compiler} {paths : FieldArena} {depth : Nat} {o : Operand} {visit : Visit}

/-- The first fault of an expression that is reached and joins no others is the error. -/
theorem Reaches.result_operand {error : FilterError} (h : c.Reaches paths depth o visit)
    (leaf : ¬ visit.kind.joins) (first : (c.visitFaults paths visit).head? = some error)
    (parent : ExprKind) :
  (c.operand paths parent depth o).result = .error error
  := by
  induction h generalizing parent with
  | here within =>
    rw [result_operand_of_le _ _ _ _ _ _ within]
    rw [visitFaults, ← c.errorOf?_node paths leaf] at first
    apply eq_error_of_errorOf? first
  | left within joins below ih =>
    rw [result_operand_of_le _ _ _ _ _ _ within, node_of_joins _ _ joins,
      Traced.bind_of_error (ih leaf first _)]
  | right within joins made below ih =>
    rw [result_operand_of_le _ _ _ _ _ _ within, node_of_joins _ _ joins,
      Traced.bind_of_ok made, Traced.bind_of_error (ih leaf first _)]

theorem reaches_expression_iff {kind : ExprKind} {left right : Operand} :
  c.Reaches paths depth (.expression kind left right) visit
    ↔ depth ≤ c.settings.maxDepth
      ∧ (visit = ⟨depth, kind, left, right⟩
        ∨ kind.joins ∧ (c.Reaches paths (depth + 1) left visit
          ∨ ∃ q, (c.operand paths kind (depth + 1) left).result = .ok q
            ∧ c.Reaches paths (depth + 1) right visit))
  := by
  constructor
  · rintro (within | ⟨within, joins, below⟩ | ⟨within, joins, made, below⟩)
    · exact ⟨within, .inl rfl⟩
    · exact ⟨within, .inr ⟨joins, .inl below⟩⟩
    · exact ⟨within, .inr ⟨joins, .inr ⟨_, made, below⟩⟩⟩
  · rintro ⟨within, rfl | ⟨joins, below | ⟨q, made, below⟩⟩⟩
    · exact .here within
    · exact .left within joins below
    · exact .right within joins made below

/-- An expression is in the log exactly when it is reached. -/
theorem mem_events_operand_iff (parent kind : ExprKind) (level : Nat) :
  .entered kind level ∈ (c.operand paths parent depth o).events
    ↔ ∃ left right, c.Reaches paths depth o ⟨level, kind, left, right⟩
  := by
  induction o generalizing parent depth with
  | expression top left right onLeft onRight =>
    by_cases within : depth ≤ c.settings.maxDepth
    case neg =>
      rw [operand_of_lt _ _ _ _ _ _ (Nat.lt_of_not_le within)]
      simp [reaches_expression_iff, within, Traced.fail, Traced.lift]
    rw [operand_of_le _ _ _ _ _ _ within, Traced.events_emit_bind, List.mem_cons]
    by_cases joins : top.joins
    case neg =>
      rw [events_node _ _ joins]
      simp [reaches_expression_iff, within, joins, and_comm]
    have rest : .entered kind level
          ∈ (c.node paths (c.operand paths top (depth + 1)) top left right).events
        ↔ (∃ l r, c.Reaches paths (depth + 1) left ⟨level, kind, l, r⟩)
          ∨ ∃ q, (c.operand paths top (depth + 1) left).result = .ok q
            ∧ ∃ l r, c.Reaches paths (depth + 1) right ⟨level, kind, l, r⟩ := by
      simp [node_of_joins _ _ joins, Traced.mem_events_bind_iff, onLeft, onRight, pure, Traced.lift]
    rw [rest]
    simp only [reaches_expression_iff, within, joins, true_and]
    constructor
    · rintro (here | ⟨l, r, below⟩ | ⟨q, made, l, r, below⟩)
      · cases here
        exact ⟨left, right, .inl rfl⟩
      · exact ⟨l, r, .inr (.inl below)⟩
      · exact ⟨l, r, .inr (.inr ⟨q, made, below⟩)⟩
    · rintro ⟨l, r, here | below | ⟨q, made, below⟩⟩
      · cases here
        exact .inl rfl
      · exact .inr (.inl ⟨l, r, below⟩)
      · exact .inr (.inr ⟨q, made, l, r, below⟩)
  | _ =>
    constructor
    · rintro ⟨⟩
    · rintro ⟨_, _, ⟨⟩⟩

/-- A field without segments is the first fault of an expression that has it as a path. -/
theorem head?_visitFaults_of_dangling {field : FieldRef} (isField : visit.left = .field field)
    (leaf : ¬ visit.kind.joins) (wellShaped : visit.kind = .function → visit.right.shape = .call)
    (missing : paths.segments? field = none) :
  (c.visitFaults paths visit).head? = some (.invalidOperand visit.kind (.dangling field))
  := by
  obtain ⟨depth, kind, left, right⟩ := visit
  cases isField
  have path (kind : ExprKind) :
      pathFaults paths kind (.field field) = [.invalidOperand kind (.dangling field)] := by
    rw [pathFaults, missing]
    rfl
  cases kind with
  | and => cases leaf rfl
  | or => cases leaf rfl
  | function =>
    cases right with
    | call call =>
      rw [visitFaults, ownFaults, applicationFaults, path]
      rfl
    | _ => cases wellShaped rfl
  | _ =>
    simp only [visitFaults, ownFaults, path]
    rfl

end Reached

end Compiler

/-! ### Fields and their owners -/

/-- In any arena, the search for the segments of a field ends after no more steps than there are
indices up to the field.  The field has segments exactly when there is a way up from it, and they
are the names along the way, no more than there are indices up to the field.  If there is no way up,
a filter fails with the field as a dangling reference, and says so, as soon as compiling it reaches
an expression with that field on the left that joins no others and is, if of a function, a call. -/
theorem segments?_or_dangling (arena : FieldArena) (field : FieldRef) :
  (∀ n, field.index < n →
      (FieldArena.Search.step arena)^[n] (.looking field []) = .ended (arena.segments? field))
    ∧ (∀ names, arena.segments? field = some names
        ↔ ∃ way, arena.IsWayUp field way ∧ names.map some = way.reverse.map arena.name?)
    ∧ (∀ way, arena.IsWayUp field way →
        (arena.segments? field).isSome ∧ way.length ≤ field.index + 1)
    ∧ ((∀ way, ¬ arena.IsWayUp field way) →
        arena.segments? field = none
          ∧ ∀ (c : Compiler) (root : Expression) (visit : Visit),
            c.Reaches arena 1 root.toOperand visit → visit.left = .field field →
            ¬ visit.kind.joins → (visit.kind = .function → visit.right.shape = .call) →
            (c.compile ⟨arena, root⟩).result
                = .error (.invalidOperand visit.kind (.dangling field))
              ∧ (OperandFault.dangling field).message
                = "dangling field reference #" ++ toString field.index)
  := by
  refine ⟨?search, fun names => FieldArena.segments?_eq_some_iff, ?way, ?noWay⟩
  case search =>
    intro n within
    rw [FieldArena.Search.iterate_step_looking arena within]
    simp only [List.append_nil, Option.map_id']
  case way =>
    intro way up
    obtain ⟨names, segments, -⟩ := up.exists_segments?
    exact ⟨Option.isSome_of_eq_some segments, up.length_le⟩
  case noWay =>
    intro noWay
    have missing := FieldArena.segments?_eq_none_iff.2 noWay
    use missing
    intro c root visit reached isField leaf wellShaped
    refine ⟨?_, rfl⟩
    rw [Compiler.result_compile]
    apply reached.result_operand leaf
    apply Compiler.head?_visitFaults_of_dangling isField leaf wellShaped missing

/-- Two nodes that own each other, and a filter that has one of them on the right of a disjunction
whose left side compiles. -/
theorem segments?_or_dangling_loop :
  let arena : FieldArena := ⟨[⟨"a", some ⟨1⟩⟩, ⟨"b", some ⟨0⟩⟩]⟩
  arena.segments? ⟨1⟩ = none
    ∧ (Compiler.default.compile
        ⟨arena, .or ⟨.equal, .literal (.string "name"), .literal .null⟩
          (.eq ⟨1⟩ (.literal .null))⟩).result
      = .error (.invalidOperand .equal (.dangling ⟨1⟩))
  := by
  intro arena
  have first : arena.get? ⟨1⟩ = some ⟨"b", some ⟨0⟩⟩ := rfl
  have second : arena.get? ⟨0⟩ = some ⟨"a", some ⟨1⟩⟩ := rfl
  have noWay : ∀ way, ¬ arena.IsWayUp ⟨1⟩ way := by
    apply FieldArena.segments?_eq_none_iff.1
    rw [FieldArena.segments?_of_child arena first, FieldArena.segments?_of_child arena second]
    rfl
  obtain ⟨missing, dangling⟩ := (segments?_or_dangling arena ⟨1⟩).2.2.2 noWay
  have reached : Compiler.default.Reaches arena 1
      (Expression.toOperand (.or ⟨.equal, .literal (.string "name"), .literal .null⟩
        (.eq ⟨1⟩ (.literal .null))))
      ⟨2, .equal, .field ⟨1⟩, .literal .null⟩ :=
    .right (by decide) rfl rfl (.here (by decide))
  exact ⟨missing, (dangling _ _ _ reached rfl (by decide) nofun).1⟩

end FilterQuery
