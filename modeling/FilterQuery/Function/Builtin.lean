import FilterQuery.Function.Registry

/-!
# Pattern functions

The functions that are always at hand: they match a field with a regular expression.  Their argument
goes into the expression as it is, so that what has a meaning in expressions keeps it.
-/

namespace FilterQuery

namespace Handler

/-- The only argument of a function. -/
def singleArg (function : String) : List Value → Except FilterError Value
  | [arg] => .ok arg
  | args => .error (.invalidUsage function (.argumentCount args.length))

/-- The only argument of a function, a string. -/
def stringArg (function : String) (args : List Value) : Except FilterError String := do
  let arg ← singleArg function args
  match arg with
  | .string s => .ok s
  | other => .error (.invalidUsage function (.notString other.type))

/-- The field matches a pattern, or a string taken for one. -/
def like : Handler := fun field args => do
  let arg ← singleArg "like" args
  match arg with
  | .string s => .ok (.matching field (.plain s))
  | .pattern p => .ok (.matching field p)
  | other => .error (.invalidUsage "like" (.notStringOrPattern other.type))

/-- The field begins with a string. -/
def startsWith : Handler := fun field args => do
  let s ← stringArg "startswith" args
  .ok (.matching field (.plain ("^" ++ s ++ ".*")))

/-- The field contains a string. -/
def contains : Handler := fun field args => do
  let s ← stringArg "contains" args
  .ok (.matching field (.plain ("^.*" ++ s ++ ".*$")))

/-- The field ends with a string. -/
def endsWith : Handler := fun field args => do
  let s ← stringArg "endswith" args
  .ok (.matching field (.plain (".*" ++ s ++ "$")))

end Handler

/-- The registry of the pattern functions. -/
def FunctionRegistry.builtin : FunctionRegistry :=
  FunctionRegistry.empty
    |>.register "like" Handler.like
    |>.register "startswith" Handler.startsWith
    |>.register "contains" Handler.contains
    |>.register "endswith" Handler.endsWith

end FilterQuery
