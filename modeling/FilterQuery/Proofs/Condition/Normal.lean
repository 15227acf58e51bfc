import FilterQuery.Proofs.Compiler.Depth
import FilterQuery.Proofs.Condition.Basic

/-!
# The normal form of a filter

`Filter.condition?` reads a filter on its tree: what it is about, apart from how it is written in
the arena and in the store.  A range is read as its two bounds, a list as a membership, and a call
of a pattern function as equality with the regular expression it stands for.  The main statement is
that the query of a filter is its normal form in the language of the store.
-/

namespace FilterQuery

/-- The regular expression that the pattern function of a name makes of its argument. -/
def patternOf? (function : String) (arg : Value) : Option Pattern :=
  match function, arg with
  | "like", .string s => some (.plain s)
  | "like", .pattern p => some p
  | "startswith", .string s => some (.plain ("^" ++ s ++ ".*"))
  | "contains", .string s => some (.plain ("^.*" ++ s ++ ".*$"))
  | "endswith", .string s => some (.plain (".*" ++ s ++ "$"))
  | _, _ => none

/-- The regular expression that a call stands for.  Names are compared in lower case. -/
def FunctionCall.pattern? (call : FunctionCall) : Option Pattern :=
  match call.args with
  | [arg] => patternOf? (Text.lowerCase call.name) arg
  | _ => none

/-- The path that an operand names. -/
def Operand.path? (c : Compiler) (paths : FieldArena) : Operand → Option String
  | .field ref => c.resolve? paths ref
  | .literal (.string path) => some path
  | _ => none

namespace Condition

/-- A value lies between two others, or is equal to one of them. -/
def between (path : String) (start stop : Bson) : Condition :=
  .and (.atom path .greaterOrEqual start) (.atom path .lessOrEqual stop)

/-- A value does not lie between two others, or is equal to one of them. -/
def beyond (path : String) (start stop : Bson) : Condition :=
  .or (.atom path .lessOrEqual start) (.atom path .greaterOrEqual stop)

/-- Equality with the contents of an operand, or the negation of it. -/
def equality? (negated : Bool) (encoder : Encoder) (path : String) : Operand → Option Condition
  | .range r =>
    some ((if negated then beyond else between) path (encoder.encode r.start)
      (encoder.encode r.stop))
  | .list values =>
    some (.atom path (if negated then .notIn else .isIn) (.array (values.map encoder.encode)))
  | .literal value =>
    some (.atom path (if negated then .notEqual else .equal) (encoder.encode value))
  | _ => none

/-- The comparison with a literal. -/
def comparison? (encoder : Encoder) (operator : Operator) (path : String) :
    Operand → Option Condition
  | .literal value => some (.atom path operator (encoder.encode value))
  | _ => none

/-- The match with the regular expression of a call. -/
def application? (c : Compiler) (paths : FieldArena) : (left right : Operand) → Option Condition
  | .field ref, .call call => do
    let path ← c.resolve? paths ref
    let pattern ← call.pattern?
    some (.atom path .equal (.regex pattern))
  | _, _ => none

end Condition

/-- The condition that an operand expresses. -/
def Operand.condition? (c : Compiler) (paths : FieldArena) : Operand → Option Condition
  | .expression kind left right =>
    match kind with
    | .and => do some (.and (← left.condition? c paths) (← right.condition? c paths))
    | .or => do some (.or (← left.condition? c paths) (← right.condition? c paths))
    | .equal => do Condition.equality? false c.encoder (← left.path? c paths) right
    | .notEqual => do Condition.equality? true c.encoder (← left.path? c paths) right
    | .greaterThan => do Condition.comparison? c.encoder .greater (← left.path? c paths) right
    | .greaterThanOrEqual => do
      Condition.comparison? c.encoder .greaterOrEqual (← left.path? c paths) right
    | .lessThan => do Condition.comparison? c.encoder .less (← left.path? c paths) right
    | .lessThanOrEqual => do
      Condition.comparison? c.encoder .lessOrEqual (← left.path? c paths) right
    | .function => Condition.application? c paths left right
  | _ => none

/-- The condition that a filter expresses, in normal form. -/
def Filter.condition? (c : Compiler) (filter : Filter) : Option Condition :=
  filter.root.toOperand.condition? c filter.paths

/-! ### The functions that are always at hand -/

/-- The functions of the registry, by name in lower case. -/
theorem FunctionRegistry.get?_builtin (name : String) :
  FunctionRegistry.builtin.get? name
    = if Text.lowerCase name = "endswith" then some Handler.endsWith
      else if Text.lowerCase name = "contains" then some Handler.contains
      else if Text.lowerCase name = "startswith" then some Handler.startsWith
      else if Text.lowerCase name = "like" then some Handler.like
      else none
  := by
  have lower : Text.lowerCase "endswith" = "endswith" ∧ Text.lowerCase "contains" = "contains"
      ∧ Text.lowerCase "startswith" = "startswith" ∧ Text.lowerCase "like" = "like" := by
    decide
  obtain ⟨endsWith, contains, startsWith, like⟩ := lower
  simp only [FunctionRegistry.builtin, FunctionRegistry.get?_register, endsWith, contains,
    startsWith, like, eq_comm (b := Text.lowerCase name)]
  rfl

theorem eq_of_singleArg {function : String} {args : List Value} {arg : Value}
    (h : Handler.singleArg function args = .ok arg) :
  args = [arg]
  := by
  match args with
  | [] => cases h
  | [_] =>
    cases h
    rfl
  | _ :: _ :: _ => cases h

theorem eq_of_stringArg {function : String} {args : List Value} {s : String}
    (h : Handler.stringArg function args = .ok s) :
  args = [.string s]
  := by
  obtain ⟨arg, single, h⟩ := exists_of_bind_eq_ok h
  rw [eq_of_singleArg single]
  cases arg with
  | string => cases h; rfl
  | _ => cases h

/-- A function of one string matches the field with what it makes of the string. -/
theorem pattern?_of_stringArg {call : FunctionCall} {function field : String} {q : Query}
    {wrap : String → String}
    (reads : ∀ s, patternOf? (Text.lowerCase call.name) (.string s) = some (.plain (wrap s)))
    (h : (do
      let s ← Handler.stringArg function call.args
      .ok (Query.matching field (.plain (wrap s)))) = .ok q) :
  ∃ pattern, call.pattern? = some pattern ∧ q = .matching field pattern
  := by
  obtain ⟨s, isString, h⟩ := exists_of_bind_eq_ok h
  cases h
  use .plain (wrap s)
  rw [FunctionCall.pattern?, eq_of_stringArg isString]
  exact ⟨reads s, rfl⟩

/-- A pattern function that accepts its arguments matches the field with the regular expression of
the call. -/
theorem pattern?_of_builtin {call : FunctionCall} {handler : Handler} {field : String} {q : Query}
    (found : FunctionRegistry.builtin.get? call.name = some handler)
    (h : handler field call.args = .ok q) :
  ∃ pattern, call.pattern? = some pattern ∧ q = .matching field pattern
  := by
  rw [FunctionRegistry.get?_builtin] at found
  repeat' split at found
  all_goals cases found
  · next name => apply pattern?_of_stringArg (fun s => by rw [name, patternOf?]) h
  · next name => apply pattern?_of_stringArg (fun s => by rw [name, patternOf?]) h
  · next name => apply pattern?_of_stringArg (fun s => by rw [name, patternOf?]) h
  · next name =>
    obtain ⟨arg, single, h⟩ := exists_of_bind_eq_ok h
    rw [FunctionCall.pattern?, eq_of_singleArg single, name]
    cases arg <;> cases h <;> exact ⟨_, rfl, rfl⟩

/-! ### The query of a normal form -/

/-- What two results after each other make is what the second makes of what the first does. -/
theorem toOption_bind {α β : Type} (first : Except FilterError α)
    (next : α → Except FilterError β) :
  (first >>= next).toOption = first.toOption.bind fun x => (next x).toOption
  := by
  cases first <;> rfl

/-- What two runs after each other make is what the second makes of what the first does. -/
theorem Traced.toOption_result_bind {α β : Type} (run : Traced α) (next : α → Traced β) :
  (run >>= next).result.toOption = run.result.toOption.bind fun x => (next x).result.toOption
  := by
  obtain ⟨events, result⟩ := run
  cases result <;> rfl

section Leaf

variable (c : Compiler) (paths : FieldArena) {kind : ExprKind} (left right : Operand)

theorem toOption_path (kind : ExprKind) (o : Operand) :
  (c.path paths kind o).toOption = o.path? c paths
  := by
  cases o with
  | field ref =>
    simp only [Compiler.path, Operand.path?]
    cases c.resolve? paths ref <;> rfl
  | literal value => cases value <;> rfl
  | _ => rfl

/-- What is made of the path of an operand is the query of a condition, if it is for each path. -/
theorem toOption_path_bind (kind : ExprKind) (o : Operand) {make : String → Except FilterError Query}
    {reads : String → Option Condition}
    (same : ∀ path, (make path).toOption = (reads path).map Condition.toQuery) :
  (c.path paths kind o >>= make).toOption
    = ((o.path? c paths).bind reads).map Condition.toQuery
  := by
  rw [toOption_bind, toOption_path, Option.map_bind]
  congr 1
  funext path
  apply same

theorem toOption_equality :
  (c.equality paths left right).toOption
    = ((Operand.expression .equal left right).condition? c paths).map Condition.toQuery
  := by
  apply toOption_path_bind
  intro path
  cases right <;> rfl

theorem toOption_inequality :
  (c.inequality paths left right).toOption
    = ((Operand.expression .notEqual left right).condition? c paths).map Condition.toQuery
  := by
  apply toOption_path_bind
  intro path
  cases right <;> rfl

theorem toOption_comparison (kind : ExprKind) (operator : Operator)
    (make : String → Bson → Query)
    (same : ∀ path x, make path x = (Condition.atom path operator x).toQuery) :
  (c.comparison paths kind make left right).toOption
    = (do Condition.comparison? c.encoder operator (← left.path? c paths) right).map
        Condition.toQuery
  := by
  apply toOption_path_bind
  intro path
  cases right with
  | literal value => exact congrArg some (same _ _)
  | _ => rfl

/-- An expression that joins no others and is not of a function makes the query of its
condition. -/
theorem toOption_node (sub : Operand → Traced Query) (leaf : ¬ kind.joins)
    (uncalled : kind ≠ .function) :
  (c.node paths sub kind left right).result.toOption
    = ((Operand.expression kind left right).condition? c paths).map Condition.toQuery
  := by
  cases kind with
  | and => cases leaf rfl
  | or => cases leaf rfl
  | equal => apply toOption_equality
  | notEqual => apply toOption_inequality
  | function => cases uncalled rfl
  | _ => exact toOption_comparison c paths left right _ _ _ fun _ _ => rfl

/-- The condition that joins two others, for a kind that does. -/
def ExprKind.joinConditions : ExprKind → Condition → Condition → Condition
  | .or => .or
  | _ => .and

theorem toQuery_joinConditions (joins : kind.joins) (m n : Condition) :
  (kind.joinConditions m n).toQuery = kind.join [m.toQuery, n.toQuery]
  := by
  cases kind with
  | and => rfl
  | or => rfl
  | _ => cases joins

/-- The condition of an expression that joins others joins theirs. -/
theorem condition?_of_joins (joins : kind.joins) :
  (Operand.expression kind left right).condition? c paths
    = (left.condition? c paths).bind fun m =>
        (right.condition? c paths).bind fun n => some (kind.joinConditions m n)
  := by
  cases kind with
  | and => rfl
  | or => rfl
  | _ => cases joins

end Leaf

section Normal

variable {c : Compiler} {paths : FieldArena} {kind : ExprKind} {left right : Operand} {q : Query}

theorem path?_of_path {path : String} (h : c.path paths kind left = .ok path) :
  left.path? c paths = some path
  := by
  rw [← toOption_path c paths kind, h]
  rfl

theorem condition_of_application (builtin : c.registry = .builtin)
    (h : (c.application paths left right).result = .ok q) :
  ∃ m, (Operand.expression .function left right).condition? c paths = some m ∧ q = m.toQuery
  := by
  cases right with
  | call call =>
    cases left with
    | field ref =>
      obtain ⟨path, found, called⟩ := Traced.result_bind_eq_ok.1 h
      change c.path paths .function (.field ref) = .ok path at found
      have resolved : c.resolve? paths ref = some path := path?_of_path found
      simp only [FunctionRegistry.call, builtin] at called
      split at called
      · next handler present =>
        obtain ⟨pattern, isPattern, rfl⟩ := pattern?_of_builtin present called
        use .atom path .equal (.regex pattern)
        simp [Operand.condition?, Condition.application?, resolved, isPattern, Condition.toQuery,
          Operator.name?, Query.matching]
      · cases called
    | _ => cases h
  | _ => cases h

/-- An expression that joins no others and is compiled to a query expresses a condition, and the
query is that condition in the language of the store. -/
theorem condition_of_node (builtin : c.registry = .builtin) {sub : Operand → Traced Query}
    (leaf : ¬ kind.joins) (h : (c.node paths sub kind left right).result = .ok q) :
  ∃ m, (Operand.expression kind left right).condition? c paths = some m ∧ q = m.toQuery
  := by
  by_cases uncalled : kind = .function
  · cases uncalled
    apply condition_of_application builtin h
  · have made := toOption_node c paths left right sub leaf uncalled
    rw [h] at made
    obtain ⟨m, reads, same⟩ := Option.map_eq_some_iff.1 made.symm
    exact ⟨m, reads, same.symm⟩

/-- An operand that is compiled to a query expresses a condition, and the query is that condition
in the language of the store. -/
theorem condition_of_operand (builtin : c.registry = .builtin) {o : Operand} {parent : ExprKind}
    {depth : Nat} (h : (c.operand paths parent depth o).result = .ok q) :
  ∃ m, o.condition? c paths = some m ∧ q = m.toQuery
  := by
  induction o generalizing parent depth q with
  | expression kind left right leftCondition rightCondition =>
    by_cases within : depth ≤ c.settings.maxDepth
    case neg =>
      rw [Compiler.operand_of_lt c paths parent kind left right (Nat.lt_of_not_le within)] at h
      cases h
    rw [Compiler.result_operand_of_le c paths parent kind left right within] at h
    by_cases joins : kind.joins
    case neg => apply condition_of_node builtin joins h
    rw [c.node_of_joins paths joins] at h
    obtain ⟨first, isFirst, h⟩ := Traced.result_bind_eq_ok.1 h
    obtain ⟨second, isSecond, h⟩ := Traced.result_bind_eq_ok.1 h
    obtain ⟨m, leftReads, rfl⟩ := leftCondition isFirst
    obtain ⟨n, rightReads, rfl⟩ := rightCondition isSecond
    cases h
    use kind.joinConditions m n
    rw [condition?_of_joins _ _ _ _ joins, leftReads, rightReads, toQuery_joinConditions joins]
    exact ⟨rfl, rfl⟩
  | _ => cases h

end Normal

/-- The query of a filter is its normal form in the language of the store. -/
theorem condition_of_compile {c : Compiler} (builtin : c.registry = .builtin) {filter : Filter}
    {q : Query} (h : (c.compile filter).result = .ok q) :
  ∃ m, filter.condition? c = some m ∧ q = m.toQuery
  := by
  rw [Compiler.result_compile] at h
  apply condition_of_operand builtin h

end FilterQuery
