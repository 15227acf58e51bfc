import FilterQuery.Filter.Builder
import FilterQuery.Proofs.Compiler.Node
import FilterQuery.Proofs.FieldArena.Growth
import FilterQuery.Proofs.Function.Builtin

/-!
# Filters that are built

A builder adds fields and returns references to them, and expressions are made of these references
by the constructors of expressions.  All references that were returned have segments, whatever was
added in between, and the constructors put every operand in its place.  So nothing is wrong with the
shape of a filter that was built: what is left to go wrong is the depth of the expression and the
calls of functions.
-/

namespace FilterQuery

namespace FilterBuilder

/-- A call of a builder. -/
inductive Call where
  | field (name : String)
  | child (owner : FieldRef) (name : String)
  | path (dotted : String)

namespace Call

/-- What a call does. -/
def builder : Call → FilterBuilder FieldRef
  | .field name => FilterBuilder.field name
  | .child owner name => FilterBuilder.child owner name
  | .path dotted => FilterBuilder.path dotted

/-- The reference that a call is given. -/
def owner? : Call → Option FieldRef
  | .child owner _ => some owner
  | _ => none

end Call

/-- The arenas that are filled by calls one after the other, with all references that these have
returned.  A call may only be given a reference that was returned before. -/
inductive Run : FieldArena → List FieldRef → Prop
  | start : Run .empty []
  | call {arena : FieldArena} {refs : List FieldRef} (before : Run arena refs) (call : Call)
      (returned : ∀ owner ∈ call.owner?, owner ∈ refs) :
    Run (call.builder.run arena).2 ((call.builder.run arena).1 :: refs)

/-- Whether references have segments. -/
def Resolves (arena : FieldArena) (refs : List FieldRef) : Prop :=
  ∀ ref ∈ refs, ∃ names, arena.segments? ref = some names

variable {arena : FieldArena} {refs : List FieldRef}

/-- The arena grows with a call. -/
theorem growsTo_call (arena : FieldArena) (call : Call) :
  arena.GrowsTo (call.builder.run arena).2
  := by
  cases call with
  | field name => apply FieldArena.growsTo_push
  | child owner name => apply FieldArena.growsTo_push
  | path dotted => apply FieldArena.growsTo_dotted

/-- The reference that a call returns has segments, if the one it is given has. -/
theorem exists_segments?_call (call : Call)
    (h : ∀ owner ∈ call.owner?, ∃ names, arena.segments? owner = some names) :
  ∃ names, (call.builder.run arena).2.segments? (call.builder.run arena).1 = some names
  := by
  cases call with
  | field name => exact ⟨[name], arena.segments?_root name⟩
  | child owner name =>
    obtain ⟨above, found⟩ := h owner rfl
    use above ++ [name]
    have added := arena.segments?_child owner name
    rw [if_pos (FieldArena.index_lt_of_segments? found), found] at added
    apply added
  | path dotted => exact ⟨pathPieces dotted, arena.segments?_dotted dotted⟩

/-- A call leaves segments to the references that had some, and returns one that has. -/
theorem Resolves.call (h : Resolves arena refs) (call : Call)
    (returned : ∀ owner ∈ call.owner?, owner ∈ refs) :
  Resolves (call.builder.run arena).2 ((call.builder.run arena).1 :: refs)
  := by
  intro ref listed
  rcases List.mem_cons.1 listed with rfl | listed
  · apply exists_segments?_call
    exact fun owner given => h owner (returned owner given)
  · obtain ⟨names, found⟩ := h ref listed
    use names
    rw [(growsTo_call arena call).segments?_eq (FieldArena.index_lt_of_segments? found), found]

/-- All references that were returned have segments. -/
theorem Run.resolves (run : Run arena refs) :
  Resolves arena refs
  := by
  induction run with
  | start => exact fun ref none => absurd none List.not_mem_nil
  | call before call returned resolves => apply resolves.call call returned

end FilterBuilder

/-! ### Expressions over references -/

/-- Whether an operand is a literal, a range or a list. -/
def Operand.IsData (o : Operand) : Prop :=
  o.shape = .literal ∨ o.shape = .range ∨ o.shape = .list

/-- The expressions that the constructors make over references. -/
inductive Expression.IsOver (refs : List FieldRef) : Expression → Prop
  | and {left right : Expression} (onLeft : IsOver refs left) (onRight : IsOver refs right) :
    IsOver refs (.and left right)
  | or {left right : Expression} (onLeft : IsOver refs left) (onRight : IsOver refs right) :
    IsOver refs (.or left right)
  | eq {ref : FieldRef} (known : ref ∈ refs) {o : Operand} (data : o.IsData) :
    IsOver refs (.eq ref o)
  | ne {ref : FieldRef} (known : ref ∈ refs) {o : Operand} (data : o.IsData) :
    IsOver refs (.ne ref o)
  | gt {ref : FieldRef} (known : ref ∈ refs) (v : Value) : IsOver refs (.gt ref v)
  | gte {ref : FieldRef} (known : ref ∈ refs) (v : Value) : IsOver refs (.gte ref v)
  | lt {ref : FieldRef} (known : ref ∈ refs) (v : Value) : IsOver refs (.lt ref v)
  | lte {ref : FieldRef} (known : ref ∈ refs) (v : Value) : IsOver refs (.lte ref v)
  | call {ref : FieldRef} (known : ref ∈ refs) (name : String) (args : List Value) :
    IsOver refs (.call ref name args)

/-- The calls in an operand, in order. -/
def Operand.calls : Operand → List FunctionCall
  | .expression _ left right => left.calls ++ right.calls
  | .call c => [c]
  | _ => []

/-- Whether a call is one of a pattern function, in any case of letters, with one string or, for
`like`, one pattern. -/
def FunctionCall.IsPatternCall (call : FunctionCall) : Prop :=
  Text.lowerCase call.name ∈ ["like", "startswith", "contains", "endswith"]
    ∧ ((∃ s, call.args = [.string s])
      ∨ Text.lowerCase call.name = "like" ∧ ∃ p, call.args = [.pattern p])

/-- What can be wrong with a filter that was built. -/
inductive FilterError.IsOfLimitOrCall (limit : Nat) : FilterError → Prop
  | deep : IsOfLimitOrCall limit (.depthExceeded limit)
  | unsupported (name : String) : IsOfLimitOrCall limit (.unsupportedFunction name)
  | usage (function : String) (fault : UsageFault) :
    IsOfLimitOrCall limit (.invalidUsage function fault)

section Faults

variable {c : Compiler} {paths : FieldArena} {refs : List FieldRef} {kind : ExprKind}

theorem pathFaults_of_resolves (resolves : FilterBuilder.Resolves paths refs) {ref : FieldRef}
    (known : ref ∈ refs) :
  pathFaults paths kind (.field ref) = []
  := by
  obtain ⟨names, found⟩ := resolves ref known
  rw [pathFaults, found]
  rfl

/-- Nothing is wrong with data that a field is compared with, and there are no calls in it. -/
theorem comparedFaults_and_calls_of_isData {o : Operand} (h : o.IsData) :
  comparedFaults kind o = [] ∧ o.calls = []
  := by
  cases o with
  | literal | range | list => exact ⟨rfl, rfl⟩
  | _ => rcases h with h | h | h <;> cases h

/-- What arguments a pattern function accepts. -/
theorem builtinUsage?_eq_none_iff (function : String) (args : List Value) :
  builtinUsage? function (args.map Value.type) = none
    ↔ (∃ s, args = [.string s]) ∨ function = "like" ∧ ∃ p, args = [.pattern p]
  := by
  rw [builtinUsage?]
  match args with
  | [] => split <;> simp [usage?]
  | [arg] =>
    split
    · next same => cases arg <;> simp [usage?, Value.type, same]
    · next other => cases arg <;> simp [usage?, Value.type, other]
  | first :: second :: rest => split <;> simp [usage?]

/-- Whether faults are about a limit or calls only, and there are none exactly if all is fine. -/
def FaultsUnless (limit : Nat) (faults : List FilterError) (fine : Prop) : Prop :=
  (∀ error ∈ faults, error.IsOfLimitOrCall limit) ∧ (faults = [] ↔ fine)

namespace FaultsUnless

variable {limit : Nat} {faults later : List FilterError} {P Q : Prop}

theorem nil (h : P) :
  FaultsUnless limit [] P
  := ⟨List.forall_mem_nil _, iff_of_true rfl h⟩

theorem singleton {error : FilterError} (h : error.IsOfLimitOrCall limit) (wrong : ¬ P) :
  FaultsUnless limit [error] P
  := ⟨List.forall_mem_singleton.2 h, iff_of_false (List.cons_ne_nil _ _) wrong⟩

theorem append (first : FaultsUnless limit faults P) (second : FaultsUnless limit later Q) :
  FaultsUnless limit (faults ++ later) (P ∧ Q)
  := by
  constructor
  · exact List.forall_mem_append.2 ⟨first.1, second.1⟩
  · rw [List.append_eq_nil_iff, first.2, second.2]

theorem congr (h : FaultsUnless limit faults P) (same : P ↔ Q) :
  FaultsUnless limit faults Q
  := ⟨h.1, h.2.trans same⟩

end FaultsUnless

/-- Whether the height of an operand fits under a limit and all calls in it are of pattern
functions. -/
def Operand.IsFine (limit depth : Nat) (o : Operand) : Prop :=
  depth + o.height ≤ limit + 1 ∧ ∀ call ∈ o.calls, call.IsPatternCall

variable {left right : Operand} {depth : Nat}

/-- An expression that is too deep is not fine. -/
theorem faultsUnless_of_deep (deep : c.settings.maxDepth < depth) (parent : ExprKind) :
  FaultsUnless c.settings.maxDepth (c.faults paths parent depth (.expression kind left right))
    ((Operand.expression kind left right).IsFine c.settings.maxDepth depth)
  := by
  rw [c.faults_of_lt paths deep]
  apply FaultsUnless.singleton .deep
  rintro ⟨low, -⟩
  have positive := Operand.height_expression_pos kind left right
  omega

/-- An expression that joins others is fine when they are. -/
theorem faultsUnless_of_joins (joins : kind.joins) (parent : ExprKind)
    (onLeft : FaultsUnless c.settings.maxDepth (c.faults paths kind (depth + 1) left)
      (left.IsFine c.settings.maxDepth (depth + 1)))
    (onRight : FaultsUnless c.settings.maxDepth (c.faults paths kind (depth + 1) right)
      (right.IsFine c.settings.maxDepth (depth + 1))) :
  FaultsUnless c.settings.maxDepth (c.faults paths parent depth (.expression kind left right))
    ((Operand.expression kind left right).IsFine c.settings.maxDepth depth)
  := by
  by_cases within : depth ≤ c.settings.maxDepth
  · rw [c.faults_of_joins paths within joins]
    apply (onLeft.append onRight).congr
    rw [Operand.IsFine, Operand.IsFine, Operand.IsFine, Operand.height, if_pos joins,
      Operand.calls, List.forall_mem_append, and_and_and_comm]
    apply and_congr_left
    intro _
    omega
  · apply faultsUnless_of_deep (Nat.lt_of_not_le within)

/-- An expression that joins nothing is fine when it is not too deep and its calls are fine. -/
theorem faultsUnless_of_leaf (leaf : ¬ kind.joins) (parent : ExprKind)
    (own : FaultsUnless c.settings.maxDepth (c.ownFaults paths kind left right)
      (∀ call ∈ left.calls ++ right.calls, call.IsPatternCall)) :
  FaultsUnless c.settings.maxDepth (c.faults paths parent depth (.expression kind left right))
    ((Operand.expression kind left right).IsFine c.settings.maxDepth depth)
  := by
  by_cases within : depth ≤ c.settings.maxDepth
  · rw [c.faults_of_not_joins paths within leaf]
    apply own.congr
    rw [Operand.IsFine, Operand.height, if_neg leaf, Operand.calls]
    apply (and_iff_right _).symm
    omega
  · apply faultsUnless_of_deep (Nat.lt_of_not_le within)

variable (resolves : FilterBuilder.Resolves paths refs) {ref : FieldRef} (known : ref ∈ refs)

include resolves known

/-- A call on a field that has segments is fine when it is of a pattern function. -/
theorem faultsUnless_of_call (builtin : c.registry = .builtin) (call : FunctionCall) :
  FaultsUnless c.settings.maxDepth (c.ownFaults paths .function (.field ref) (.call call))
    call.IsPatternCall
  := by
  obtain ⟨names, found⟩ := resolves ref known
  have path : pathFaults paths .function (.field ref) = [] :=
    pathFaults_of_resolves resolves known
  have named := isSome_get?_builtin call.name
  have accepted := builtinUsage?_eq_none_iff (Text.lowerCase call.name) call.args
  rw [Compiler.ownFaults, Compiler.applicationFaults, path, List.nil_append,
    callFaults_builtin builtin, found, FunctionCall.IsPatternCall, ← named, ← accepted]
  cases FunctionRegistry.builtin.get? call.name with
  | none => exact .singleton (.unsupported _) (by simp)
  | some handler =>
    cases builtinUsage? (Text.lowerCase call.name) (call.args.map Value.type) with
    | none => exact .nil (by simp)
    | some fault => exact .singleton (.usage _ _) (by simp)

/-- A comparison of a field that has segments with data is fine when it is not too deep. -/
theorem faultsUnless_of_data {o : Operand} (data : o.IsData) (leaf : ¬ kind.joins)
    (own : c.ownFaults paths kind (.field ref) o
      = pathFaults paths kind (.field ref) ++ comparedFaults kind o) (parent : ExprKind) :
  FaultsUnless c.settings.maxDepth
    (c.faults paths parent depth (.expression kind (.field ref) o))
    ((Operand.expression kind (.field ref) o).IsFine c.settings.maxDepth depth)
  := by
  obtain ⟨right, uncalled⟩ := comparedFaults_and_calls_of_isData data
  apply faultsUnless_of_leaf leaf
  rw [own, pathFaults_of_resolves resolves known, right, uncalled]
  apply FaultsUnless.nil (List.forall_mem_nil _)

omit known

/-- An expression over references that have segments is fine unless it is too deep or a call in it
is not of a pattern function. -/
theorem faultsUnless_of_isOver (builtin : c.registry = .builtin) {e : Expression}
    (built : e.IsOver refs) (parent : ExprKind) (depth : Nat) :
  FaultsUnless c.settings.maxDepth (c.faults paths parent depth e.toOperand)
    (e.toOperand.IsFine c.settings.maxDepth depth)
  := by
  have literal (v : Value) : (Operand.literal v).IsData := .inl rfl
  induction built generalizing parent depth with
  | and _ _ onLeft onRight =>
    exact faultsUnless_of_joins rfl parent (onLeft .and (depth + 1)) (onRight .and (depth + 1))
  | or _ _ onLeft onRight =>
    exact faultsUnless_of_joins rfl parent (onLeft .or (depth + 1)) (onRight .or (depth + 1))
  | eq known data | ne known data =>
    apply faultsUnless_of_data resolves known data
    · exact Bool.false_ne_true
    · rfl
  | gt known v | gte known v | lt known v | lte known v =>
    apply faultsUnless_of_data resolves known (literal v)
    · exact Bool.false_ne_true
    · rfl
  | call known name args =>
    apply faultsUnless_of_leaf
    · exact Bool.false_ne_true
    · apply (faultsUnless_of_call resolves known builtin ⟨name, args⟩).congr
      apply List.forall_mem_singleton.symm

end Faults

/-- A filter of a builder, with an expression over references that the builder has returned, is
rejected for the limit or for a call only.  It is accepted exactly when its height is within the
limit and every call is of a pattern function with an argument that this takes. -/
theorem compile_of_run {filter : Filter} {refs : List FieldRef}
    (run : FilterBuilder.Run filter.paths refs) (built : filter.root.IsOver refs) (c : Compiler)
    (builtin : c.registry = .builtin) :
  (∀ error, (c.compile filter).result = .error error →
      error = .depthExceeded c.settings.maxDepth ∨ (∃ name, error = .unsupportedFunction name)
        ∨ ∃ function fault, error = .invalidUsage function fault)
    ∧ ((∃ q, (c.compile filter).result = .ok q)
      ↔ filter.height ≤ c.settings.maxDepth
        ∧ ∀ call ∈ filter.root.toOperand.calls, call.IsPatternCall)
  := by
  obtain ⟨faults, fine⟩ :=
    faultsUnless_of_isOver run.resolves builtin built filter.root.kind 1
  have first := errorOf?_operand c filter.paths filter.root.toOperand filter.root.kind 1
  rw [← Compiler.result_compile] at first
  constructor
  · intro error rejected
    rw [rejected, eq_comm] at first
    cases faults error (List.mem_of_mem_head? first) with
    | deep => exact .inl rfl
    | unsupported name => exact .inr (.inl ⟨name, rfl⟩)
    | usage function fault => exact .inr (.inr ⟨function, fault, rfl⟩)
  · have height : filter.height ≤ c.settings.maxDepth
        ↔ 1 + filter.root.toOperand.height ≤ c.settings.maxDepth + 1 := by
      rw [Filter.height]
      omega
    rw [height, ← Operand.IsFine, ← fine, ← List.head?_eq_none_iff, ← first]
    cases (c.compile filter).result with
    | error error => simp [errorOf?]
    | ok q => simp [errorOf?]

/-- A filter over a root, a child of it and a dotted path is accepted. -/
theorem compile_of_run_child :
  let f := FilterBuilder.finish do
    let user ← FilterBuilder.field "user"
    let id ← FilterBuilder.child user "Id"
    let name ← FilterBuilder.path "user.name"
    return .and (.ne id (.list [.null])) (.or (.call name "STARTSWITH" [.string "Jo"])
      (.gt user (.int 3)))
  let refs : List FieldRef := [⟨3⟩, ⟨1⟩, ⟨0⟩]
  FilterBuilder.Run f.paths refs ∧ f.root.IsOver refs ∧ Compiler.default.registry = .builtin
    ∧ f.height ≤ Compiler.default.settings.maxDepth
    ∧ (∀ call ∈ f.root.toOperand.calls, call.IsPatternCall)
    ∧ ∃ q, (Compiler.default.compile f).result = .ok q
  := by
  intro f refs
  have run : FilterBuilder.Run f.paths refs := by
    apply FilterBuilder.Run.call _ (.path "user.name")
    · rintro _ ⟨⟩
    apply FilterBuilder.Run.call _ (.child ⟨0⟩ "Id")
    · rintro _ ⟨⟩
      apply List.mem_singleton_self
    apply FilterBuilder.Run.call .start (.field "user")
    rintro _ ⟨⟩
  have built : f.root.IsOver refs := by
    apply Expression.IsOver.and
    · apply Expression.IsOver.ne (by decide) (.inr (.inr rfl))
    · apply Expression.IsOver.or
      · apply Expression.IsOver.call (by decide)
      · apply Expression.IsOver.gt (by decide)
  have height : f.height ≤ Compiler.default.settings.maxDepth := by decide
  have calls : ∀ call ∈ f.root.toOperand.calls, call.IsPatternCall := by
    have only : f.root.toOperand.calls = [⟨"STARTSWITH", [.string "Jo"]⟩] := rfl
    rw [only, List.forall_mem_singleton]
    exact ⟨by decide, .inl ⟨"Jo", rfl⟩⟩
  have accepted := (compile_of_run run built .default rfl).2.2 ⟨height, calls⟩
  exact ⟨run, built, rfl, height, calls, accepted⟩

end FilterQuery
