import FilterQuery.Proofs.Compiler.Depth
import FilterQuery.Proofs.Filter.Built
import FilterQuery.Proofs.Function.Registration
import Mathlib.Data.List.Forall2

/-!
# The spelling of names

The case of ASCII letters in the names of functions is not seen when a filter is compiled, neither
in the tree nor where the functions were registered: the query is the same, and so is the error,
except that an error about the name of a call shows the name as it is spelled in that call.  An
error that a function itself returns is the same, whatever names it quotes.
-/

namespace FilterQuery

/-! ### Names in another spelling -/

/-- Calls that are the same up to the case of ASCII letters in their names. -/
structure FunctionCall.Respelled (call call' : FunctionCall) : Prop where
  name : sameIgnoringCase call.name call'.name
  args : call.args = call'.args

/-- Operands that are the same up to the case of ASCII letters in the names of functions. -/
inductive Operand.Respelled : Operand → Operand → Prop
  | expression (kind : ExprKind) {left right left' right' : Operand}
      (onLeft : Respelled left left') (onRight : Respelled right right') :
    Respelled (.expression kind left right) (.expression kind left' right')
  | field (ref : FieldRef) : Respelled (.field ref) (.field ref)
  | literal (value : Value) : Respelled (.literal value) (.literal value)
  | range (range : Range) : Respelled (.range range) (.range range)
  | list (values : List Value) : Respelled (.list values) (.list values)
  | call {call call' : FunctionCall} (same : call.Respelled call') :
    Respelled (.call call) (.call call')

/-- Filters that are the same up to the case of ASCII letters in the names of functions. -/
structure Filter.Respelled (filter filter' : Filter) : Prop where
  paths : filter.paths = filter'.paths
  kind : filter.root.kind = filter'.root.kind
  left : filter.root.left.Respelled filter'.root.left
  right : filter.root.right.Respelled filter'.root.right

/-- Registrations of the same functions under names that are the same up to the case of ASCII
letters, in the same order. -/
def FunctionRegistry.Respelled : List (String × Handler) → List (String × Handler) → Prop :=
  List.Forall₂ fun entry entry' => sameIgnoringCase entry.1 entry'.1 ∧ entry.2 = entry'.2

/-- The calls of operands that differ in spelling correspond to each other. -/
theorem Operand.Respelled.calls {o o' : Operand} (respelled : o.Respelled o') :
  List.Forall₂ FunctionCall.Respelled o.calls o'.calls
  := by
  induction respelled with
  | expression kind _ _ leftCalls rightCalls => exact List.rel_append leftCalls rightCalls
  | call same => exact .cons same .nil
  | _ => exact .nil

/-- A function is found under every spelling of its name. -/
theorem FunctionRegistry.get?_eq_of_sameIgnoringCase (registry : FunctionRegistry)
    {name name' : String} (same : sameIgnoringCase name name') :
  registry.get? name = registry.get? name'
  := by
  rw [get?, get?, Text.lowerCase_eq_of_sameIgnoringCase same]

/-- Registrations in another spelling make the same registry. -/
theorem FunctionRegistry.registerAll_eq_of_respelled (base : FunctionRegistry)
    {registrations registrations' : List (String × Handler)}
    (respelled : Respelled registrations registrations') :
  base.registerAll registrations = base.registerAll registrations'
  := by
  rw [registerAll, registerAll]
  induction respelled generalizing base with
  | nil => rfl
  | cons same _ ih =>
    rw [List.foldl_cons, List.foldl_cons, register, register,
      Text.lowerCase_eq_of_sameIgnoringCase same.1, same.2, ih]

/-! ### Results that differ in spelling -/

/-- The name of a function that the message of an error quotes. -/
def FilterError.quoted? : FilterError → Option String
  | .unsupportedFunction name => some name
  | .invalidUsage function _ => some function
  | .invalidOperand _ (.notOnField function) => some function
  | _ => none

/-- Errors of two filters over a registry, of which the calls that correspond to each other are
given in pairs.  The errors are the same, except that those about the name of a call show it as it
is spelled in the call. -/
inductive FilterError.Respelled (registry : FunctionRegistry)
    (calls : List (FunctionCall × FunctionCall)) : FilterError → FilterError → Prop
  | unsupported {call call' : FunctionCall} (here : (call, call') ∈ calls)
      (missing : registry.get? call.name = none) :
    Respelled registry calls (.unsupportedFunction call.name) (.unsupportedFunction call'.name)
  | misplaced {call call' : FunctionCall} (here : (call, call') ∈ calls) :
    Respelled registry calls (.invalidOperand .function (.notOnField call.name))
      (.invalidOperand .function (.notOnField call'.name))
  | unquoted {error : FilterError} (unquoted : error.quoted? = none) :
    Respelled registry calls error error
  /-- The error is that of the function. -/
  | returned {call call' : FunctionCall} {handler : Handler} {field : String}
      {error : FilterError} (here : (call, call') ∈ calls)
      (found : registry.get? call.name = some handler)
      (failed : handler field call.args = .error error) :
    Respelled registry calls error error

/-- Results that are the same, or both errors that are related. -/
inductive SameUpTo {α : Type} (related : FilterError → FilterError → Prop) :
    Except FilterError α → Except FilterError α → Prop
  | ok (x : α) : SameUpTo related (.ok x) (.ok x)
  | error {e e' : FilterError} (h : related e e') : SameUpTo related (.error e) (.error e')

namespace SameUpTo

variable {α β : Type} {related : FilterError → FilterError → Prop}

theorem bind {first first' : Except FilterError α} {next next' : α → Except FilterError β}
    (h : SameUpTo related first first') (later : ∀ x, SameUpTo related (next x) (next' x)) :
  SameUpTo related (first >>= next) (first' >>= next')
  := by
  cases h with
  | ok x => apply later
  | error h => exact .error h

theorem result_bind {run run' : Traced α} {next next' : α → Traced β}
    (h : SameUpTo related run.result run'.result)
    (later : ∀ x, SameUpTo related (next x).result (next' x).result) :
  SameUpTo related (run >>= next).result (run' >>= next').result
  := by
  obtain ⟨events, result⟩ := run
  obtain ⟨events', result'⟩ := run'
  cases h with
  | ok x => apply later
  | error h => exact .error h

end SameUpTo

/-! ### One expression in another spelling -/

namespace Compiler

section Node

variable (c : Compiler) (paths : FieldArena) (calls : List (FunctionCall × FunctionCall))
  (kind : ExprKind) {left right left' right' : Operand}

theorem path_respelled (onLeft : left.Respelled left') :
  SameUpTo (FilterError.Respelled c.registry calls) (c.path paths kind left)
    (c.path paths kind left')
  := by
  cases onLeft with
  | field ref =>
    rw [path]
    cases c.resolve? paths ref with
    | none => exact .error (.unquoted rfl)
    | some name => exact .ok name
  | literal value =>
    cases value with
    | string name => exact .ok name
    | _ => exact .error (.unquoted rfl)
  | _ => exact .error (.unquoted rfl)

theorem equality_respelled (onLeft : left.Respelled left') (onRight : right.Respelled right') :
  SameUpTo (FilterError.Respelled c.registry calls) (c.equality paths left right)
    (c.equality paths left' right')
  := by
  apply (c.path_respelled paths calls .equal onLeft).bind
  intro name
  cases onRight with
  | range | list | literal => exact .ok _
  | _ => exact .error (.unquoted rfl)

theorem inequality_respelled (onLeft : left.Respelled left') (onRight : right.Respelled right') :
  SameUpTo (FilterError.Respelled c.registry calls) (c.inequality paths left right)
    (c.inequality paths left' right')
  := by
  apply (c.path_respelled paths calls .notEqual onLeft).bind
  intro name
  cases onRight with
  | range | list | literal => exact .ok _
  | _ => exact .error (.unquoted rfl)

theorem comparison_respelled (operator : String → Bson → Query) (onLeft : left.Respelled left')
    (onRight : right.Respelled right') :
  SameUpTo (FilterError.Respelled c.registry calls) (c.comparison paths kind operator left right)
    (c.comparison paths kind operator left' right')
  := by
  apply (c.path_respelled paths calls kind onLeft).bind
  intro name
  cases onRight with
  | literal => exact .ok _
  | _ => exact .error (.unquoted rfl)

variable {calls}

/-- A call that is looked up under another spelling is left to the same function. -/
theorem call_respelled {call call' : FunctionCall} (same : call.Respelled call')
    (here : (call, call') ∈ calls) (field : String) :
  SameUpTo (FilterError.Respelled c.registry calls)
    (c.registry.call call.name field call.args).result
    (c.registry.call call'.name field call'.args).result
  := by
  rw [FunctionRegistry.call, FunctionRegistry.call,
    ← c.registry.get?_eq_of_sameIgnoringCase same.name, ← same.args]
  cases found : c.registry.get? call.name with
  | none => exact .error (.unsupported here found)
  | some handler =>
    simp only [Traced.result_lift]
    cases failed : handler field call.args with
    | ok query => exact .ok query
    | error error => exact .error (.returned here found failed)

theorem application_respelled (onLeft : left.Respelled left') (onRight : right.Respelled right')
    (inside : right.calls.zip right'.calls ⊆ calls) :
  SameUpTo (FilterError.Respelled c.registry calls) (c.application paths left right).result
    (c.application paths left' right').result
  := by
  cases onRight with
  | call same =>
    have here := inside List.mem_cons_self
    cases onLeft with
    | field ref =>
      apply SameUpTo.result_bind
      · exact c.path_respelled paths calls .function (.field ref)
      · apply c.call_respelled same here
    | _ => exact .error (.misplaced here)
  | _ => exact .error (.unquoted rfl)

/-- An expression that joins no others is the same in another spelling. -/
theorem node_respelled {sub sub' : Operand → Traced Query} {kind : ExprKind} (leaf : ¬ kind.joins)
    (onLeft : left.Respelled left') (onRight : right.Respelled right')
    (inside : right.calls.zip right'.calls ⊆ calls) :
  SameUpTo (FilterError.Respelled c.registry calls) (c.node paths sub kind left right).result
    (c.node paths sub' kind left' right').result
  := by
  cases kind with
  | and => cases leaf rfl
  | or => cases leaf rfl
  | equal => apply c.equality_respelled paths calls onLeft onRight
  | notEqual => apply c.inequality_respelled paths calls onLeft onRight
  | function => apply c.application_respelled paths onLeft onRight inside
  | _ => apply c.comparison_respelled paths calls _ _ onLeft onRight

/-! ### Filters in another spelling -/

/-- Operands that differ in spelling are compiled to the same query, or to errors that differ in
spelling. -/
theorem operand_respelled {o o' : Operand} (respelled : o.Respelled o')
    (inside : o.calls.zip o'.calls ⊆ calls) (parent : ExprKind) (depth : Nat) :
  SameUpTo (FilterError.Respelled c.registry calls) (c.operand paths parent depth o).result
    (c.operand paths parent depth o').result
  := by
  induction respelled generalizing parent depth with
  | expression kind onLeft onRight leftSame rightSame =>
    -- There are as many calls on the left of both, so those on the right stay in pairs.
    rw [Operand.calls, Operand.calls, List.zip_append onLeft.calls.length_eq,
      List.append_subset] at inside
    by_cases within : depth ≤ c.settings.maxDepth
    case neg =>
      have deep := Nat.lt_of_not_le within
      rw [c.operand_of_lt _ _ _ _ _ deep, c.operand_of_lt _ _ _ _ _ deep]
      exact .error (.unquoted rfl)
    rw [c.result_operand_of_le _ _ _ _ _ within, c.result_operand_of_le _ _ _ _ _ within]
    by_cases joins : kind.joins
    · rw [c.node_of_joins _ joins, c.node_of_joins _ joins]
      apply (leftSame inside.1 kind (depth + 1)).result_bind
      intro first
      apply (rightSame inside.2 kind (depth + 1)).result_bind
      intro second
      exact .ok _
    · apply c.node_respelled paths joins onLeft onRight inside.2
  | _ => exact .error (.unquoted rfl)

end Node

end Compiler

/-- A filter in another spelling is compiled, with functions registered in another spelling, to the
same query or to the same error, except that an error about the name of a call shows it as it is
spelled in that call. -/
theorem compile_respelled (c : Compiler) (base : FunctionRegistry)
    {registrations registrations' : List (String × Handler)} {filter filter' : Filter}
    (registered : FunctionRegistry.Respelled registrations registrations')
    (respelled : filter.Respelled filter') :
  SameUpTo
    (FilterError.Respelled (base.registerAll registrations)
      (filter.root.toOperand.calls.zip filter'.root.toOperand.calls))
    ((c.withRegistry (base.registerAll registrations)).compile filter).result
    ((c.withRegistry (base.registerAll registrations')).compile filter').result
  := by
  have root : filter.root.toOperand.Respelled filter'.root.toOperand := by
    rw [Expression.toOperand, Expression.toOperand, respelled.kind]
    exact .expression _ respelled.left respelled.right
  rw [← base.registerAll_eq_of_respelled registered, Compiler.result_compile,
    Compiler.result_compile, ← respelled.paths, ← respelled.kind]
  apply (c.withRegistry (base.registerAll registrations)).operand_respelled filter.paths root
  exact fun _ member => member

/-- A name that ends in a capital sigma is found under another spelling, and a name that is not
found is shown as it is spelled. -/
theorem compile_respelled_sigma :
  let registrations := [("aΣ", Handler.contains), ("LIKE", Handler.endsWith)]
  let registrations' := [("AΣ", Handler.contains), ("Like", Handler.endsWith)]
  let paths : FieldArena := ⟨[⟨"x", none⟩]⟩
  let filter : Filter := ⟨paths, .and (.call ⟨0⟩ "AΣ" [.string "v"]) (.call ⟨0⟩ "noΣ" [])⟩
  let filter' : Filter := ⟨paths, .and (.call ⟨0⟩ "aΣ" [.string "v"]) (.call ⟨0⟩ "NoΣ" [])⟩
  let run := ((Compiler.default.withRegistry
    (FunctionRegistry.builtin.registerAll registrations)).compile filter).result
  let run' := ((Compiler.default.withRegistry
    (FunctionRegistry.builtin.registerAll registrations')).compile filter').result
  FunctionRegistry.Respelled registrations registrations' ∧ filter.Respelled filter'
    ∧ SameUpTo
      (FilterError.Respelled (FunctionRegistry.builtin.registerAll registrations)
        (filter.root.toOperand.calls.zip filter'.root.toOperand.calls)) run run'
    ∧ run = .error (.unsupportedFunction "noΣ") ∧ run' = .error (.unsupportedFunction "NoΣ")
  := by
  intro registrations registrations' paths filter filter' run run'
  have registered : FunctionRegistry.Respelled registrations registrations' :=
    .cons ⟨rfl, rfl⟩ (.cons ⟨rfl, rfl⟩ .nil)
  have respelled : filter.Respelled filter' :=
    { paths := rfl
      kind := rfl
      left := .expression .function (.field ⟨0⟩) (.call ⟨rfl, rfl⟩)
      right := .expression .function (.field ⟨0⟩) (.call ⟨rfl, rfl⟩) }
  have same := compile_respelled .default .builtin registered respelled
  have failed (known unknown : String) (registry : FunctionRegistry)
      (found : registry.get? known = some Handler.contains)
      (missing : registry.get? unknown = none) :
      ((Compiler.default.withRegistry registry).compile
        ⟨paths, .and (.call ⟨0⟩ known [.string "v"]) (.call ⟨0⟩ unknown [])⟩).result
        = .error (.unsupportedFunction unknown) := by
    have root : paths.segments? ⟨0⟩ = some ["x"] := FieldArena.segments?_of_root _ rfl
    rw [Compiler.result_compile]
    simp only [Compiler.operand, Expression.and, Expression.call, Expression.toOperand,
      Compiler.application, Compiler.path, Compiler.resolve?, Compiler.withRegistry, root,
      FunctionRegistry.call, found, missing]
    rfl
  have lower : Text.lowerCase "AΣ" = "aς" ∧ Text.lowerCase "aΣ" = "aς"
      ∧ Text.lowerCase "LIKE" = "like" := by
    decide +kernel
  have found : (FunctionRegistry.builtin.registerAll registrations).get? "AΣ"
      = some Handler.contains := by
    rw [FunctionRegistry.get?_registerAll]
    simp [registrations, FunctionRegistry.lastOf?, lower]
  have missing : (FunctionRegistry.builtin.registerAll registrations).get? "noΣ" = none := by
    apply Option.isNone_iff_eq_none.1
    decide +kernel
  refine ⟨registered, respelled, same, failed _ _ _ found missing, ?_⟩
  apply failed
  · rw [← FunctionRegistry.registerAll_eq_of_respelled _ registered, ← found]
    apply FunctionRegistry.get?_eq_of_sameIgnoringCase _ rfl
  · rw [← FunctionRegistry.registerAll_eq_of_respelled _ registered, ← missing]
    apply FunctionRegistry.get?_eq_of_sameIgnoringCase _ rfl

end FilterQuery
