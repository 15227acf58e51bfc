import FilterQuery.Proofs.Compiler.Node
import FilterQuery.Proofs.Function.Builtin

/-!
# Filters that are too high

A fault of an expression itself is about one of its operands and names its kind, or it is that of a
function.  So if no function fails because something is too deep, a filter does only if it is higher
than the limit, which is then in the error.
-/

namespace FilterQuery

/-- Whether no function of a registry fails because something is too deep. -/
def FunctionRegistry.NeverTooDeep (registry : FunctionRegistry) : Prop :=
  ∀ name handler, registry.get? name = some handler →
    ∀ field args limit, handler field args ≠ .error (.depthExceeded limit)

/-- Pattern functions fail for their arguments only. -/
theorem FunctionRegistry.neverTooDeep_builtin :
  builtin.NeverTooDeep
  := by
  intro name handler found field args limit stopped
  have usage := errorOf?_builtin args found field
  rw [stopped] at usage
  obtain ⟨fault, -, same⟩ := Option.map_eq_some_iff.1 usage.symm
  cases same

/-! ### Faults that name a kind -/

/-- Whether an error is about an operand of an expression of a kind. -/
def FilterError.IsAbout (kind : ExprKind) (error : FilterError) : Prop :=
  ∃ fault, error = .invalidOperand kind fault

section Operands

variable {paths : FieldArena} {kind : ExprKind} {o : Operand} {error : FilterError}

theorem isAbout_of_mem_pathFaults (h : error ∈ pathFaults paths kind o) :
  error.IsAbout kind
  := by
  unfold pathFaults at h
  split at h
  · split at h
    · exact ⟨_, List.mem_singleton.1 h⟩
    · cases h
  · cases h
  · exact ⟨_, List.mem_singleton.1 h⟩

theorem isAbout_of_mem_comparedFaults (h : error ∈ comparedFaults kind o) :
  error.IsAbout kind
  := by
  cases o with
  | range | list | literal => cases h
  | _ => exact ⟨_, List.mem_singleton.1 h⟩

theorem isAbout_of_mem_scalarFaults (h : error ∈ scalarFaults kind o) :
  error.IsAbout kind
  := by
  cases o with
  | literal => cases h
  | _ => exact ⟨_, List.mem_singleton.1 h⟩

theorem isAbout_of_mem_nestedFaults (h : error ∈ nestedFaults kind o) :
  error.IsAbout kind
  := by
  cases o with
  | expression => cases h
  | _ => exact ⟨_, List.mem_singleton.1 h⟩

end Operands

namespace Compiler

section Limit

variable {c : Compiler} {paths : FieldArena} {kind parent : ExprKind} {left right o : Operand}
  {depth limit : Nat} {error : FilterError}

/-- What is wrong with a call is that there is no such function, or what the function says. -/
theorem eq_of_mem_callFaults {ref : FieldRef} {call : FunctionCall}
    (h : error ∈ c.callFaults paths ref call) :
  error = .unsupportedFunction call.name
    ∨ ∃ handler path, c.registry.get? call.name = some handler
      ∧ handler path call.args = .error error
  := by
  unfold callFaults at h
  split at h
  · left
    apply List.mem_singleton.1 h
  · next handler path found _ =>
    right
    use handler, path, found
    cases called : handler path call.args with
    | ok q => simp [called, errorOf?] at h
    | error other =>
      rw [called, errorOf?, Option.mem_toList] at h
      cases h
      rfl
  · cases h

/-- What is wrong with an expression itself is about an operand and names the kind, or it is about
a call. -/
theorem isAbout_or_of_mem_ownFaults (h : error ∈ c.ownFaults paths kind left right) :
  error.IsAbout kind ∨ ∃ ref call, error ∈ c.callFaults paths ref call
  := by
  cases kind with
  | function =>
    cases right with
    | call call =>
      cases left with
      | field ref =>
        rcases List.mem_append.1 h with h | h
        · exact .inl (isAbout_of_mem_pathFaults h)
        · exact .inr ⟨ref, call, h⟩
      | _ => exact .inl ⟨_, List.mem_singleton.1 h⟩
    | _ => exact .inl ⟨_, List.mem_singleton.1 h⟩
  | and | or =>
    left
    rcases List.mem_append.1 h with h | h <;> apply isAbout_of_mem_nestedFaults h
  | equal | notEqual =>
    left
    rcases List.mem_append.1 h with h | h
    · apply isAbout_of_mem_pathFaults h
    · apply isAbout_of_mem_comparedFaults h
  | _ =>
    left
    rcases List.mem_append.1 h with h | h
    · apply isAbout_of_mem_pathFaults h
    · apply isAbout_of_mem_scalarFaults h

/-- No expression is too deep by its operands or its function. -/
theorem depthExceeded_notMem_ownFaults (never : c.registry.NeverTooDeep) :
  .depthExceeded limit ∉ c.ownFaults paths kind left right
  := by
  intro h
  rcases isAbout_or_of_mem_ownFaults h with ⟨fault, ⟨⟩⟩ | ⟨ref, call, h⟩
  rcases eq_of_mem_callFaults h with missing | ⟨handler, path, found, failed⟩
  · cases missing
  · exact never _ _ found _ _ _ failed

/-- A fault of depth in a tree says the limit, and the tree is higher than the limit allows. -/
theorem lt_of_depthExceeded_mem_faults (never : c.registry.NeverTooDeep)
    (h : .depthExceeded limit ∈ c.faults paths parent depth o) :
  limit = c.settings.maxDepth ∧ c.settings.maxDepth + 1 < depth + o.height
  := by
  induction o generalizing parent depth with
  | expression kind left right onLeft onRight =>
    by_cases within : depth ≤ c.settings.maxDepth
    case neg =>
      have deep := Nat.lt_of_not_le within
      rw [faults_of_lt _ _ deep] at h
      cases List.mem_singleton.1 h
      use rfl
      have positive := Operand.height_expression_pos kind left right
      omega
    by_cases joins : kind.joins
    case neg =>
      rw [faults_of_not_joins _ _ within joins] at h
      cases depthExceeded_notMem_ownFaults never h
    rw [faults_of_joins _ _ within joins, List.mem_append] at h
    rw [Operand.height, if_pos joins]
    rcases h with h | h
    · obtain ⟨same, high⟩ := onLeft h
      use same
      omega
    · obtain ⟨same, high⟩ := onRight h
      use same
      omega
  | _ => cases List.mem_singleton.1 h

/-- Compiling a filter fails because something is too deep only if the filter is higher than the
limit, and says the limit. -/
theorem lt_height_of_depthExceeded (never : c.registry.NeverTooDeep) {filter : Filter}
    (h : (c.compile filter).result = .error (.depthExceeded limit)) :
  limit = c.settings.maxDepth ∧ c.settings.maxDepth < filter.height
  := by
  have first := errorOf?_operand c filter.paths filter.root.toOperand filter.root.kind 1
  rw [← result_compile, h] at first
  obtain ⟨same, high⟩ := lt_of_depthExceeded_mem_faults never (List.mem_of_head? first.symm)
  rw [Nat.add_comm 1] at high
  exact ⟨same, Nat.lt_of_succ_lt_succ high⟩

end Limit

end Compiler

end FilterQuery
