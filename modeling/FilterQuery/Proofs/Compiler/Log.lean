import FilterQuery.Proofs.Compiler.Node

/-!
# The log of compiling

The expressions of a filter are gone through from the root down, an expression before those in its
operands and the left operand before the right one; these are its `visits`.  A filter that is
accepted has an event for each of them and one for its query.  A filter that is rejected has the
events of the visits before the error: up to the expression that is at fault, or, if that one joins
others and its right operand is none, up to the last one in its left operand.
-/

namespace FilterQuery

/-! ### Runs after each other -/

namespace Traced

variable {α β : Type} {run : Traced α} {next : α → Traced β}

theorem bind_of_ok {x : α} (h : run.result = .ok x) :
  (run >>= next) = ⟨run.events ++ (next x).events, (next x).result⟩
  := by
  obtain ⟨events, result⟩ := run
  cases h
  rfl

theorem bind_of_error {error : FilterError} (h : run.result = .error error) :
  (run >>= next) = ⟨run.events, .error error⟩
  := by
  obtain ⟨events, result⟩ := run
  cases h
  rfl

/-- The events of two runs after each other are those of the first, and if it makes something those
of the second. -/
theorem mem_events_bind_iff {event : Event} :
  event ∈ (run >>= next).events
    ↔ event ∈ run.events ∨ ∃ x, run.result = .ok x ∧ event ∈ (next x).events
  := by
  cases made : run.result with
  | error error => simp [bind_of_error made]
  | ok x => simp [bind_of_ok made]

end Traced

/-! ### Visits -/

/-- An expression that is gone through, with its depth. -/
structure Visit where
  depth : Nat
  kind : ExprKind
  left : Operand
  right : Operand

/-- The expressions of an operand that are reached through those that join others, in order. -/
def Operand.visits (depth : Nat) : Operand → List Visit
  | .expression kind left right =>
    ⟨depth, kind, left, right⟩ ::
      if kind.joins then left.visits (depth + 1) ++ right.visits (depth + 1) else []
  | _ => []

/-- The expressions of a filter that are reached from its root, which has the depth 1. -/
def Filter.visits (filter : Filter) : List Visit := filter.root.toOperand.visits 1

/-- The event of entering an expression. -/
def Visit.event (visit : Visit) : Event := .entered visit.kind visit.depth

/-- The expressions that are gone through between entering one and looking at its right operand. -/
def Visit.passed (visit : Visit) : List Visit :=
  if visit.kind.joins then visit.left.visits (visit.depth + 1) else []

namespace Compiler

section Log

variable (c : Compiler) (paths : FieldArena)

/-- What is wrong with a visited expression itself. -/
def visitFaults (visit : Visit) : List FilterError :=
  c.ownFaults paths visit.kind visit.left visit.right

/-- The warning about the function that a visited expression looks up in vain. -/
def warnings (visit : Visit) : List Event :=
  (c.missingFunction? paths visit.kind visit.left visit.right).toList.map .unsupportedFunction

/-- The error and the events of a run that goes through some visits and stops at the next one.  That
one is too deep and not entered, or it is entered and has a fault of its own. -/
inductive Stops (before : List Visit) (visit : Visit) : FilterError → List Event → Prop
  | refused (deep : c.settings.maxDepth < visit.depth) :
    Stops before visit (.depthExceeded c.settings.maxDepth) (before.map Visit.event)
  | entered {error : FilterError} (within : visit.depth ≤ c.settings.maxDepth)
      (first : (c.visitFaults paths visit).head? = some error) :
    Stops before visit error
      ((before ++ visit :: visit.passed).map Visit.event ++ c.warnings paths visit)

variable {α β : Type}

/-- Whether a run over some visits stops at one of them. -/
def StopsIn (visits : List Visit) (run : Traced α) : Prop :=
  ∃ error before visit after, run.result = .error error ∧ visits = before ++ visit :: after
    ∧ visit.passed <+: after ∧ c.Stops paths before visit error run.events

/-- Whether a run makes something after some visits. -/
def Passes (visits : List Visit) (run : Traced α) (x : α) : Prop :=
  run.result = .ok x ∧ run.events = visits.map Visit.event

variable {c paths} {run : Traced α} {next : α → Traced β} {visits later : List Visit}

theorem StopsIn.append (h : c.StopsIn paths visits run) (later : List Visit) :
  c.StopsIn paths (visits ++ later) run
  := by
  obtain ⟨error, before, visit, after, failed, rfl, passed, stops⟩ := h
  refine ⟨error, before, visit, after ++ later, failed, ?_, ?_, stops⟩
  · rw [List.append_assoc, List.cons_append]
  · apply passed.trans (List.prefix_append _ _)

/-- A warning is in the events exactly when the function it names was looked up in vain, and that is
then the error. -/
theorem Stops.mem_iff {before : List Visit} {visit : Visit} {error : FilterError}
    {events : List Event} (h : c.Stops paths before visit error events) (name : String) :
  .unsupportedFunction name ∈ events
    ↔ error = .unsupportedFunction name
      ∧ c.missingFunction? paths visit.kind visit.left visit.right = some name
  := by
  have entered (visits : List Visit) : .unsupportedFunction name ∉ visits.map Visit.event := by
    intro listed
    obtain ⟨_, -, same⟩ := List.mem_map.1 listed
    cases same
  cases h with
  | refused deep =>
    constructor
    · intro listed
      cases entered before listed
    · rintro ⟨⟨⟩, -⟩
  | entered within first =>
    rw [List.mem_append, or_iff_right (entered _), warnings]
    constructor
    · intro listed
      obtain ⟨missed, missing, same⟩ := List.mem_map.1 listed
      cases same
      rw [Option.mem_toList] at missing
      rw [visitFaults, ownFaults_of_missingFunction? c paths missing] at first
      cases first
      exact ⟨rfl, missing⟩
    · rintro ⟨-, missing⟩
      apply List.mem_map_of_mem (Option.mem_toList.2 missing)

/-- A run that stops does not go on. -/
theorem StopsIn.bind (h : c.StopsIn paths visits run) (next : α → Traced β) :
  c.StopsIn paths visits (run >>= next)
  := by
  obtain ⟨error, before, visit, after, failed, split, passed, stops⟩ := h
  rw [Traced.bind_of_error failed]
  exact ⟨error, before, visit, after, rfl, split, passed, stops⟩

/-- A run may go on after some visits and stop at a later one. -/
theorem StopsIn.of_next {x : α} (made : Passes visits run x)
    (h : c.StopsIn paths later (next x)) :
  c.StopsIn paths (visits ++ later) (run >>= next)
  := by
  obtain ⟨error, before, visit, after, failed, rfl, passed, stops⟩ := h
  refine ⟨error, visits ++ before, visit, after, ?_, ?_, passed, ?_⟩
  · rw [Traced.bind_of_ok made.1, failed]
  · rw [List.append_assoc]
  · rw [Traced.bind_of_ok made.1, made.2]
    generalize (next x).events = events at stops
    cases stops with
    | refused deep =>
      rw [← List.map_append]
      apply Stops.refused deep
    | entered within first =>
      rw [← List.append_assoc, ← List.map_append, ← List.append_assoc]
      apply Stops.entered within first

theorem Passes.bind {x : α} {y : β} (made : Passes visits run x) (h : Passes later (next x) y) :
  Passes (visits ++ later) (run >>= next) y
  := by
  rw [Passes, Traced.bind_of_ok made.1, List.map_append, made.2, h.2]
  exact ⟨h.1, rfl⟩

end Log

section Operands

variable (c : Compiler) (paths : FieldArena) {visit : Visit} {kind : ExprKind}
  {left right : Operand} {depth : Nat}

theorem operand_of_shape_ne {o : Operand} (h : o.shape ≠ .expression) (parent : ExprKind)
    (depth : Nat) :
  c.operand paths parent depth o = Traced.fail (.invalidOperand parent (.notExpression o.shape))
  := by
  cases o with
  | expression => cases h rfl
  | _ => rfl

theorem nestedFaults_of_shape_ne {o : Operand} (h : o.shape ≠ .expression) (parent : ExprKind) :
  nestedFaults parent o = [.invalidOperand parent (.notExpression o.shape)]
  := by
  cases o with
  | expression => cases h rfl
  | _ => rfl

theorem nestedFaults_of_shape_eq {o : Operand} (h : o.shape = .expression) (parent : ExprKind) :
  nestedFaults parent o = []
  := by
  cases o with
  | expression => rfl
  | _ => cases h

theorem visits_of_shape_ne {o : Operand} (h : o.shape ≠ .expression) (depth : Nat) :
  o.visits depth = []
  := by
  cases o with
  | expression => cases h rfl
  | _ => rfl

/-- An expression that joins others looks no function up. -/
theorem warnings_of_joins (joins : visit.kind.joins) :
  c.warnings paths visit = []
  := by
  obtain ⟨depth, kind, left, right⟩ := visit
  cases kind with
  | and => rfl
  | or => rfl
  | _ => cases joins

/-- An expression that joins others stops the run at an operand that is none. -/
theorem stopsIn_of_wrong_operand {α β : Type} {run : Traced α} {next : α → Traced β} {x : α}
    {error : FilterError} (within : visit.depth ≤ c.settings.maxDepth) (joins : visit.kind.joins)
    (made : Passes (visit :: visit.passed) run x)
    (first : (c.visitFaults paths visit).head? = some error)
    (failed : next x = Traced.fail error) (later : List Visit) :
  c.StopsIn paths (visit :: visit.passed ++ later) (run >>= next)
  := by
  rw [Traced.bind_of_ok made.1, failed, made.2]
  refine ⟨error, [], visit, visit.passed ++ later, rfl, rfl, List.prefix_append _ _, ?_⟩
  have stops : c.Stops paths [] visit error _ := .entered within first
  rw [warnings_of_joins c paths joins] at stops
  apply stops

/-- An expression that joins nothing is the only visit, or the run stops at it. -/
theorem passes_or_stopsIn_of_leaf (leaf : ¬ kind.joins) (parent : ExprKind)
    (within : depth ≤ c.settings.maxDepth) :
  (∃ q, Passes [⟨depth, kind, left, right⟩]
      (c.operand paths parent depth (.expression kind left right)) q)
    ∨ c.StopsIn paths [⟨depth, kind, left, right⟩]
      (c.operand paths parent depth (.expression kind left right))
  := by
  have events : (c.node paths (c.operand paths kind (depth + 1)) kind left right).events
      = c.warnings paths ⟨depth, kind, left, right⟩ := c.events_node paths leaf
  have error : errorOf? (c.node paths (c.operand paths kind (depth + 1)) kind left right).result
      = (c.ownFaults paths kind left right).head? := c.errorOf?_node paths leaf
  rw [operand_of_le c paths parent kind left right within]
  generalize c.node paths (c.operand paths kind (depth + 1)) kind left right = run at events error
  obtain ⟨_, result⟩ := run
  cases events
  cases result with
  | ok q =>
    left
    have unwarned : c.missingFunction? paths kind left right = none := by
      rw [Option.eq_none_iff_forall_ne_some]
      intro name missing
      rw [ownFaults_of_missingFunction? c paths missing] at error
      cases error
    rw [unwarned]
    exact ⟨q, rfl, rfl⟩
  | error error' =>
    right
    have alone : Visit.passed ⟨depth, kind, left, right⟩ = [] := if_neg leaf
    have stops : c.Stops paths [] ⟨depth, kind, left, right⟩ error' _ :=
      .entered within error.symm
    rw [alone] at stops
    exact ⟨error', [], ⟨depth, kind, left, right⟩, [], rfl, rfl, alone ▸ List.prefix_rfl, stops⟩

/-- An expression that is too deep stops the run before it is entered. -/
theorem stopsIn_of_deep (deep : c.settings.maxDepth < depth) (parent : ExprKind) :
  c.StopsIn paths ((Operand.expression kind left right).visits depth)
    (c.operand paths parent depth (.expression kind left right))
  := by
  rw [operand_of_lt c paths parent kind left right deep]
  refine ⟨_, [], ⟨depth, kind, left, right⟩, _, rfl, rfl, ?_, Stops.refused deep⟩
  rw [Visit.passed]
  split
  · apply List.prefix_append
  · apply List.prefix_rfl

/-- An expression is compiled after all visits, or the run stops at one of them. -/
theorem passes_or_stopsIn (o : Operand) (isExpression : o.shape = .expression) (parent : ExprKind)
    (depth : Nat) :
  (∃ q, Passes (o.visits depth) (c.operand paths parent depth o) q)
    ∨ c.StopsIn paths (o.visits depth) (c.operand paths parent depth o)
  := by
  induction o generalizing parent depth with
  | expression kind left right onLeft onRight =>
    by_cases within : depth ≤ c.settings.maxDepth
    case neg =>
      right
      apply stopsIn_of_deep c paths (Nat.lt_of_not_le within)
    by_cases joins : kind.joins
    case neg =>
      rw [Operand.visits, if_neg joins]
      apply passes_or_stopsIn_of_leaf c paths joins parent within
    have entered : Passes [⟨depth, kind, left, right⟩] (Traced.emit (.entered kind depth)) () :=
      ⟨rfl, rfl⟩
    have faults : c.visitFaults paths ⟨depth, kind, left, right⟩
        = nestedFaults kind left ++ nestedFaults kind right := c.ownFaults_of_joins paths joins
    have passed : Visit.passed ⟨depth, kind, left, right⟩ = left.visits (depth + 1) := if_pos joins
    rw [operand_of_le c paths parent kind left right within, node_of_joins c paths joins,
      Operand.visits, if_pos joins]
    by_cases leftShape : left.shape = .expression
    case neg =>
      right
      rw [operand_of_shape_ne c paths leftShape, ← passed]
      rw [visits_of_shape_ne leftShape] at passed
      apply stopsIn_of_wrong_operand c paths within joins (by rw [passed]; apply entered)
      · rw [faults, nestedFaults_of_shape_ne leftShape]
        rfl
      · apply Traced.lift_error_bind
    rcases onLeft leftShape kind (depth + 1) with ⟨q, onLeft⟩ | stops
    case inr =>
      right
      apply StopsIn.of_next entered
      apply (stops.bind _).append
    by_cases rightShape : right.shape = .expression
    case neg =>
      right
      rw [operand_of_shape_ne c paths rightShape, ← bind_assoc, ← passed]
      apply stopsIn_of_wrong_operand c paths within joins
        (by rw [passed]; apply Passes.bind entered onLeft)
      · rw [faults, nestedFaults_of_shape_eq leftShape, nestedFaults_of_shape_ne rightShape]
        rfl
      · apply Traced.lift_error_bind
    rcases onRight rightShape kind (depth + 1) with ⟨r, onRight⟩ | stops
    case inr =>
      right
      apply StopsIn.of_next entered
      apply StopsIn.of_next onLeft (stops.bind _)
    left
    use kind.join [q, r]
    apply Passes.bind entered
    apply Passes.bind onLeft
    rw [← List.append_nil (right.visits _)]
    apply Passes.bind onRight ⟨rfl, rfl⟩
  | _ => cases isExpression

end Operands

end Compiler

/-- A filter that is accepted has the events of its visits, in order, and then that of its query.  A
filter that is rejected stops at one of its visits.  Either that one is too deep, and only those
before it have events.  Or it has a fault of its own; then it has an event, and so have those before
it and those that are passed before its fault is found, and after these comes a warning exactly when
the fault is that the registry does not have the function, which the warning names. -/
theorem events_compile (c : Compiler) (filter : Filter) :
  match (c.compile filter).result with
  | .ok q => (c.compile filter).events = filter.visits.map Visit.event ++ [.compiled q]
  | .error error =>
    ∃ before visit after, filter.visits = before ++ visit :: after
      ∧ visit.passed <+: after
      ∧ c.Stops filter.paths before visit error (c.compile filter).events
      ∧ ∀ name, .unsupportedFunction name ∈ (c.compile filter).events
        ↔ error = .unsupportedFunction name
          ∧ c.missingFunction? filter.paths visit.kind visit.left visit.right = some name
  := by
  have run := c.passes_or_stopsIn filter.paths filter.root.toOperand rfl filter.root.kind 1
  rw [Compiler.compile, Compiler.expression]
  rcases run with ⟨q, made, events⟩ | ⟨error, before, visit, after, failed, split, passed, stops⟩
  · rw [Traced.bind_of_ok made, events]
    rfl
  · rw [Traced.bind_of_error failed]
    exact ⟨before, visit, after, split, passed, stops, stops.mem_iff⟩

end FilterQuery
