import FilterQuery.Proofs.Compiler.Node
import FilterQuery.Proofs.Function.Builtin

/-!
# Filters that differ in data only

Two filters are alike when they have the same kinds, shapes, references and names of functions, and
arenas with the same owners.  The names of the nodes, the contents of literals and all data on the
right of an expression may differ; of a literal on the left and of the arguments of a function, the
types are the same.  The main statement is that the data is not seen in errors and warnings: alike
filters are accepted together or rejected with the same error, and their expressions are entered in
the same order.
-/

namespace FilterQuery

/-! ### Alike filters -/

/-- Whether two arenas have the same owners. -/
def FieldArena.Alike (arena other : FieldArena) : Prop :=
  arena.nodes.map FieldNode.owner = other.nodes.map FieldNode.owner

/-- The sides of an expression. -/
inductive Side where
  | left
  | right

/-- Operands that differ in data only, on the same side of their expressions. -/
inductive Operand.Alike : Side → Operand → Operand → Prop
  | expression {side : Side} (kind : ExprKind) {left right left' right' : Operand}
      (onLeft : Alike .left left left') (onRight : Alike .right right right') :
    Alike side (.expression kind left right) (.expression kind left' right')
  | field {side : Side} (ref : FieldRef) : Alike side (.field ref) (.field ref)
  | leftLiteral {v w : Value} (same : v.type = w.type) : Alike .left (.literal v) (.literal w)
  | rightLiteral (v w : Value) : Alike .right (.literal v) (.literal w)
  | range {side : Side} (r s : Range) : Alike side (.range r) (.range s)
  | list {side : Side} (vs ws : List Value) : Alike side (.list vs) (.list ws)
  | call {side : Side} (name : String) {args others : List Value}
      (same : args.map Value.type = others.map Value.type) :
    Alike side (.call ⟨name, args⟩) (.call ⟨name, others⟩)

/-- Whether two filters differ in data only. -/
structure Filter.Alike (filter other : Filter) : Prop where
  paths : filter.paths.Alike other.paths
  kind : filter.root.kind = other.root.kind
  left : filter.root.left.Alike .left other.root.left
  right : filter.root.right.Alike .right other.root.right

/-- Whether two runs have the same events, and the same error or none. -/
def Traced.Agrees {α β : Type} (run : Traced α) (other : Traced β) : Prop :=
  run.events = other.events ∧ errorOf? run.result = errorOf? other.result

/-! ### What is wrong with alike operands -/

section Faults

variable {paths paths' : FieldArena} {kind : ExprKind} {side : Side}
  {left right left' right' o o' : Operand}

theorem FieldArena.Alike.owner_eq (h : paths.Alike paths') (ref : FieldRef) :
  (paths.get? ref).map FieldNode.owner = (paths'.get? ref).map FieldNode.owner
  := by
  rw [get?, get?, ← List.getElem?_map, ← List.getElem?_map, h]

/-- Whether a field has segments depends on the owners only. -/
theorem FieldArena.isNone_segments?_eq (arena : FieldArena) (field : FieldRef) :
  (arena.segments? field).isNone
    = match (arena.get? field).map FieldNode.owner with
      | none => true
      | some none => false
      | some (some owner) =>
        if owner.index < field.index then (arena.segments? owner).isNone else true
  := by
  rw [segments?]
  cases arena.get? field with
  | none => rfl
  | some node =>
    obtain ⟨name, owner⟩ := node
    cases owner with
    | none => rfl
    | some owner =>
      simp only [Option.map_some]
      split
      · rw [Option.isNone_map]
      · rfl

/-- A field has segments in both of two alike arenas or in none. -/
theorem FieldArena.Alike.isNone_segments? (h : paths.Alike paths') (field : FieldRef) :
  (paths.segments? field).isNone = (paths'.segments? field).isNone
  := by
  rw [isNone_segments?_eq, isNone_segments?_eq, h.owner_eq]
  split
  · rfl
  · rfl
  · next owner owned =>
    split
    · next before => apply isNone_segments? h owner
    · rfl
termination_by field.index

theorem pathFaults_literal (paths : FieldArena) (kind : ExprKind) (v : Value) :
  pathFaults paths kind (.literal v)
    = if v.type = .string then [] else [.invalidOperand kind (.notPath .literal)]
  := by
  cases v <;> rfl

theorem Operand.Alike.pathFaults_eq (h : left.Alike .left left') (arena : paths.Alike paths') :
  pathFaults paths kind left = pathFaults paths' kind left'
  := by
  cases h with
  | field ref => rw [pathFaults, pathFaults, arena.isNone_segments?]
  | leftLiteral same => rw [pathFaults_literal, pathFaults_literal, same]
  | _ => rfl

theorem Operand.Alike.comparedFaults_eq (h : right.Alike .right right') :
  comparedFaults kind right = comparedFaults kind right'
  := by
  cases h <;> rfl

theorem Operand.Alike.scalarFaults_eq (h : right.Alike .right right') :
  scalarFaults kind right = scalarFaults kind right'
  := by
  cases h <;> rfl

theorem Operand.Alike.nestedFaults_eq (h : o.Alike side o') :
  nestedFaults kind o = nestedFaults kind o'
  := by
  cases h <;> rfl

variable {c d : Compiler} (builtin : c.registry = .builtin) (builtin' : d.registry = .builtin)

include builtin builtin'

theorem applicationFaults_eq_of_alike (arena : paths.Alike paths') (onLeft : left.Alike .left left')
    (onRight : right.Alike .right right') :
  c.applicationFaults paths left right = d.applicationFaults paths' left' right'
  := by
  cases onRight with
  | call name same =>
    cases onLeft with
    | field ref =>
      have path : pathFaults paths .function (.field ref) = pathFaults paths' .function (.field ref) :=
        (Operand.Alike.field ref).pathFaults_eq arena
      rw [Compiler.applicationFaults, Compiler.applicationFaults, path,
        callFaults_builtin builtin, callFaults_builtin builtin', arena.isNone_segments?, same]
    | _ => rfl
  | _ => rfl

/-- Alike expressions have the same faults of their own. -/
theorem ownFaults_eq_of_alike (arena : paths.Alike paths') (onLeft : left.Alike .left left')
    (onRight : right.Alike .right right') :
  c.ownFaults paths kind left right = d.ownFaults paths' kind left' right'
  := by
  cases kind with
  | and | or =>
    rw [Compiler.ownFaults, Compiler.ownFaults, onLeft.nestedFaults_eq, onRight.nestedFaults_eq]
  | equal | notEqual =>
    rw [Compiler.ownFaults, Compiler.ownFaults, onLeft.pathFaults_eq arena,
      onRight.comparedFaults_eq]
  | function => apply applicationFaults_eq_of_alike builtin builtin' arena onLeft onRight
  | _ =>
    simp only [Compiler.ownFaults]
    rw [onLeft.pathFaults_eq arena, onRight.scalarFaults_eq]

/-- Alike expressions look the same function up in vain, or none. -/
theorem missingFunction?_eq_of_alike (arena : paths.Alike paths')
    (onLeft : left.Alike .left left') (onRight : right.Alike .right right') :
  c.missingFunction? paths kind left right = d.missingFunction? paths' kind left' right'
  := by
  cases kind with
  | function =>
    cases onRight with
    | call name same =>
      cases onLeft with
      | field ref =>
        simp only [Compiler.missingFunction?, builtin, builtin', ← Option.not_isNone,
          arena.isNone_segments?]
      | _ => rfl
    | _ => rfl
  | _ => rfl

end Faults

/-! ### Runs over alike operands -/

section Runs

theorem Traced.Agrees.bind {α β γ δ : Type} {run : Traced α} {other : Traced β}
    {next : α → Traced γ} {next' : β → Traced δ} (h : run.Agrees other)
    (later : ∀ x y, (next x).Agrees (next' y)) :
  (run >>= next).Agrees (other >>= next')
  := by
  obtain ⟨events, result⟩ := run
  obtain ⟨events', result'⟩ := other
  obtain ⟨rfl, same⟩ := h
  cases result with
  | error error =>
    cases result' with
    | error error' => exact ⟨rfl, same⟩
    | ok y => cases same
  | ok x =>
    cases result' with
    | error error' => cases same
    | ok y => exact ⟨congrArg (events ++ ·) (later x y).1, (later x y).2⟩

variable {c d : Compiler} {paths paths' : FieldArena}

/-- Alike operands are compiled with the same events, to the same error or to queries. -/
theorem Operand.Alike.agrees {side : Side} {o o' : Operand} (alike : o.Alike side o')
    (arena : paths.Alike paths') (builtin : c.registry = .builtin)
    (builtin' : d.registry = .builtin) (limit : c.settings.maxDepth = d.settings.maxDepth)
    (parent : ExprKind) (depth : Nat) :
  (c.operand paths parent depth o).Agrees (d.operand paths' parent depth o')
  := by
  induction alike generalizing parent depth with
  | expression kind onLeft onRight leftAgrees rightAgrees =>
    by_cases within : depth ≤ c.settings.maxDepth
    case neg =>
      have deep := Nat.lt_of_not_le within
      rw [c.operand_of_lt _ _ _ _ _ deep, d.operand_of_lt _ _ _ _ _ (limit ▸ deep), limit]
      exact ⟨rfl, rfl⟩
    rw [c.operand_of_le _ _ _ _ _ within, d.operand_of_le _ _ _ _ _ (limit ▸ within)]
    apply Traced.Agrees.bind ⟨rfl, rfl⟩
    intro _ _
    by_cases joins : kind.joins
    · rw [c.node_of_joins _ joins, d.node_of_joins _ joins]
      apply Traced.Agrees.bind (leftAgrees kind (depth + 1))
      intro _ _
      apply Traced.Agrees.bind (rightAgrees kind (depth + 1))
      intro _ _
      exact ⟨rfl, rfl⟩
    · constructor
      · rw [c.events_node _ joins, d.events_node _ joins,
          missingFunction?_eq_of_alike builtin builtin' arena onLeft onRight]
      · rw [c.errorOf?_node _ joins, d.errorOf?_node _ joins,
          ownFaults_eq_of_alike builtin builtin' arena onLeft onRight]
  | _ => exact ⟨rfl, rfl⟩

end Runs

/-! ### Alike filters compiled -/

/-- Whether an event shows a query. -/
def Event.showsQuery : Event → Bool
  | .compiled _ => true
  | _ => false

/-- Alike filters are accepted together or rejected with the same error, by compilers with the
pattern functions and the same limit; and except for the queries the events are the same. -/
theorem compile_alike {filter other : Filter} (alike : filter.Alike other) {c d : Compiler}
    (builtin : c.registry = .builtin) (builtin' : d.registry = .builtin)
    (limit : c.settings.maxDepth = d.settings.maxDepth) :
  ((∃ q r, (c.compile filter).result = .ok q ∧ (d.compile other).result = .ok r)
      ∨ ∃ error, (c.compile filter).result = .error error ∧ (d.compile other).result = .error error)
    ∧ (c.compile filter).events.filter (! ·.showsQuery)
      = (d.compile other).events.filter (! ·.showsQuery)
  := by
  have root : filter.root.toOperand.Alike .left other.root.toOperand := by
    rw [Expression.toOperand, Expression.toOperand, alike.kind]
    exact .expression _ alike.left alike.right
  have agrees := root.agrees alike.paths builtin builtin' limit filter.root.kind 1
  rw [Compiler.compile, Compiler.compile, Compiler.expression, Compiler.expression, ← alike.kind]
  generalize c.operand filter.paths filter.root.kind 1 filter.root.toOperand = run at agrees
  generalize d.operand other.paths filter.root.kind 1 other.root.toOperand = run' at agrees
  obtain ⟨events, result⟩ := run
  obtain ⟨events', result'⟩ := run'
  obtain ⟨rfl, same⟩ := agrees
  cases result with
  | error error =>
    cases result' with
    | error error' =>
      cases same
      exact ⟨.inr ⟨error, rfl, rfl⟩, rfl⟩
    | ok r => cases same
  | ok q =>
    cases result' with
    | error error' => cases same
    | ok r =>
      refine ⟨.inl ⟨q, r, rfl, rfl⟩, ?_⟩
      have shown (query : Query) : (events ++ [Event.compiled query]).filter (! ·.showsQuery)
          = events.filter (! ·.showsQuery) := by
        rw [List.filter_append]
        apply List.append_nil
      apply (shown q).trans (shown r).symm

/-- Neither the names of fields nor lists nor the contents of arguments are seen in an error, under
different encoders and with different names for the field that identifies a document. -/
theorem compile_alike_usage :
  let f : Filter := ⟨⟨[⟨"a", none⟩, ⟨"b", some ⟨0⟩⟩]⟩,
    .and (.ne ⟨1⟩ (.list [.int 1, .null])) (.call ⟨0⟩ "Contains" [.int 1])⟩
  let g : Filter := ⟨⟨[⟨"$where", none⟩, ⟨"Id", some ⟨0⟩⟩]⟩,
    .and (.ne ⟨1⟩ (.list [])) (.call ⟨0⟩ "Contains" [.int 2])⟩
  let d : Compiler := ⟨⟨fun _ => .null⟩, .builtin, ⟨256, "key"⟩⟩
  f.Alike g ∧ Compiler.default.registry = .builtin ∧ d.registry = .builtin
    ∧ Compiler.default.settings.maxDepth = d.settings.maxDepth
    ∧ ((∃ q r, (Compiler.default.compile f).result = .ok q ∧ (d.compile g).result = .ok r)
      ∨ ∃ error, (Compiler.default.compile f).result = .error error
        ∧ (d.compile g).result = .error error)
    ∧ (Compiler.default.compile f).events.filter (! ·.showsQuery)
      = (d.compile g).events.filter (! ·.showsQuery)
  := by
  intro f g d
  have alike : f.Alike g :=
    { paths := rfl
      kind := rfl
      left := .expression .notEqual (.field ⟨1⟩) (.list _ _)
      right := .expression .function (.field ⟨0⟩) (.call "Contains" rfl) }
  exact ⟨alike, rfl, rfl, rfl, compile_alike alike rfl rfl rfl⟩

end FilterQuery
