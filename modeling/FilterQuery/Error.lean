import FilterQuery.Filter.Basic

/-!
# Errors

The reasons for which a filter cannot be read or compiled, and their messages.
-/

namespace FilterQuery

/-- What is wrong with an operand. -/
inductive OperandFault where
  | notExpression (got : Shape)
  | notPath (got : Shape)
  | dangling (field : FieldRef)
  | notComparable (got : Shape)
  | notScalar (got : Shape)
  | notCall (got : Shape)
  | notOnField (function : String)
deriving DecidableEq

/-- The message about an operand. -/
def OperandFault.message : OperandFault → String
  | .notExpression got => "expected a nested expression, got " ++ got.name
  | .notPath got => "expected a field path, got " ++ got.name
  | .dangling field => "dangling field reference #" ++ toString field.index
  | .notComparable got => "cannot compare a field with a " ++ got.name
  | .notScalar got => "expected a scalar, got " ++ got.name
  | .notCall got => "expected a function call, got " ++ got.name
  | .notOnField function => "function '" ++ function ++ "' must target a field reference"

/-- What is wrong with the arguments of a function. -/
inductive UsageFault where
  | argumentCount (got : Nat)
  | notString (got : ValueType)
  | notStringOrPattern (got : ValueType)
  /-- A fault that a function of a host describes in its own words. -/
  | other (description : String)
deriving DecidableEq

/-- The message about the arguments of a function. -/
def UsageFault.message : UsageFault → String
  | .argumentCount got => "Expected 1 argument, got " ++ toString got
  | .notString got => "Expected string, got " ++ got.name
  | .notStringOrPattern got => "Expected string or pattern, got " ++ got.name
  | .other description => description

/-- What is wrong with settings. -/
inductive SettingsFault where
  /-- The text holds no settings. -/
  | undecodable
  | zeroDepth
  | emptyIdentity
deriving DecidableEq

/-- The message about settings. -/
def SettingsFault.message : SettingsFault → String
  | .undecodable => "not a settings text"
  | .zeroDepth => "max_depth must be greater than zero"
  | .emptyIdentity => "identity_field must not be empty"

/-- What is wrong with the text of a filter. -/
inductive TextFault where
  /-- The text is no JSON text. -/
  | notJson
  /-- The JSON value is no filter. -/
  | notFilter
deriving DecidableEq

/-- The message about the text of a filter. -/
def TextFault.message : TextFault → String
  | .notJson => "not a JSON text"
  | .notFilter => "not a filter"

/-- A reason for which a filter cannot be read or compiled. -/
inductive FilterError where
  | unsupportedExpression (name : String)
  | unsupportedFunction (name : String)
  | invalidUsage (function : String) (fault : UsageFault)
  | invalidOperand (kind : ExprKind) (fault : OperandFault)
  | depthExceeded (limit : Nat)
  | settings (fault : SettingsFault)
  | malformed (fault : TextFault)
deriving DecidableEq

/-- An unknown kind makes an expression unsupported. -/
def FilterError.ofUnknownKind (fault : UnknownKind) : FilterError :=
  .unsupportedExpression fault.name

/-- The message of an error. -/
def FilterError.message : FilterError → String
  | .unsupportedExpression name => "Unsupported expression: " ++ name
  | .unsupportedFunction name => "Unsupported function: " ++ name
  | .invalidUsage function fault =>
    "Invalid usage of function '" ++ function ++ "': " ++ fault.message
  | .invalidOperand kind fault =>
    "Invalid operand for " ++ kind.name ++ " expression: " ++ fault.message
  | .depthExceeded limit =>
    "Expression nesting exceeds the configured limit of " ++ toString limit
  | .settings fault => "Invalid filter settings: " ++ fault.message
  | .malformed fault => "Malformed filter: " ++ fault.message

end FilterQuery
