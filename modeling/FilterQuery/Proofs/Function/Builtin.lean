import FilterQuery.Proofs.Compiler.Faults
import FilterQuery.Proofs.Condition.Normal

/-!
# The arguments of pattern functions

Whether a pattern function accepts its arguments, and what it says is wrong with them, depends only
on their number and their types.
-/

namespace FilterQuery

/-- What is wrong with arguments of given types, for a function that takes one argument of certain
types. -/
def usage? (accepted : List ValueType) (refuse : ValueType → UsageFault) :
    List ValueType → Option UsageFault
  | [type] => if type ∈ accepted then none else some (refuse type)
  | types => some (.argumentCount types.length)

/-- What is wrong with arguments of given types, for the pattern function of a name. -/
def builtinUsage? (function : String) : List ValueType → Option UsageFault :=
  if function = "like" then usage? [.string, .pattern] .notStringOrPattern
  else usage? [.string] .notString

section Arguments

variable {α : Type} (function : String) (args : List Value)

/-- More arguments than one are counted. -/
theorem usage?_of_many (accepted : List ValueType) (refuse : ValueType → UsageFault)
    (first second : Value) (rest : List Value) :
  usage? accepted refuse ((first :: second :: rest).map Value.type)
    = some (.argumentCount (first :: second :: rest).length)
  := by
  simp [usage?]

/-- A function of one string fails only for its arguments. -/
theorem errorOf?_stringArg (make : String → α) :
  errorOf? (do
      let s ← Handler.stringArg function args
      .ok (make s))
    = (usage? [.string] .notString (args.map Value.type)).map (.invalidUsage function)
  := by
  match args with
  | [] => rfl
  | [arg] => cases arg <;> rfl
  | first :: second :: rest =>
    rw [usage?_of_many]
    rfl

theorem errorOf?_like (field : String) :
  errorOf? (Handler.like field args)
    = (usage? [.string, .pattern] .notStringOrPattern (args.map Value.type)).map
        (.invalidUsage "like")
  := by
  match args with
  | [] => rfl
  | [arg] => cases arg <;> rfl
  | first :: second :: rest =>
    rw [usage?_of_many]
    rfl

/-- A pattern function fails for its arguments only, and how it fails depends on their types. -/
theorem errorOf?_builtin {name : String} {handler : Handler}
    (found : FunctionRegistry.builtin.get? name = some handler) (field : String) :
  errorOf? (handler field args)
    = (builtinUsage? (Text.lowerCase name) (args.map Value.type)).map
        (.invalidUsage (Text.lowerCase name))
  := by
  rw [FunctionRegistry.get?_builtin] at found
  repeat' split at found
  all_goals cases found
  case isFalse.isFalse.isFalse.isTrue same =>
    rw [same]
    apply errorOf?_like
  all_goals
    next same =>
    rw [same]
    apply errorOf?_stringArg

/-- The names of the registry are those of the pattern functions. -/
theorem isSome_get?_builtin (name : String) :
  (FunctionRegistry.builtin.get? name).isSome
    ↔ Text.lowerCase name ∈ ["like", "startswith", "contains", "endswith"]
  := by
  rw [FunctionRegistry.get?_builtin]
  simp only [List.mem_cons, List.not_mem_nil, or_false]
  repeat' split
  all_goals simp [*]

/-- What is wrong with a call of a pattern function depends on the name, on whether the field has
segments, and on the types of the arguments. -/
theorem callFaults_builtin {c : Compiler} (builtin : c.registry = .builtin) (paths : FieldArena)
    (ref : FieldRef) (call : FunctionCall) :
  c.callFaults paths ref call
    = if (FunctionRegistry.builtin.get? call.name).isNone then [.unsupportedFunction call.name]
      else if (paths.segments? ref).isNone then []
      else ((builtinUsage? (Text.lowerCase call.name) (call.args.map Value.type)).map
        (.invalidUsage (Text.lowerCase call.name))).toList
  := by
  rw [Compiler.callFaults, builtin, Compiler.resolve?]
  cases found : FunctionRegistry.builtin.get? call.name with
  | none => rfl
  | some handler =>
    cases paths.segments? ref with
    | none => rfl
    | some names =>
      simp only [Option.map_some, errorOf?_builtin call.args found]
      rfl

end Arguments

end FilterQuery
