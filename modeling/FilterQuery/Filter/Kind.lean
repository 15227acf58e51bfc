/-!
# Kinds of expressions

An expression joins two others, compares a field, or applies a named function to a field.  Kinds are
written by name, and read without regard to the case of ASCII letters.
-/

namespace FilterQuery

/-- The kind of an expression. -/
inductive ExprKind where
  | and
  | or
  | equal
  | notEqual
  | greaterThan
  | greaterThanOrEqual
  | lessThan
  | lessThanOrEqual
  | function
deriving DecidableEq

/-- Whether two texts are the same up to the case of ASCII letters. -/
def sameIgnoringCase (s t : String) : Bool :=
  s.toList.map Char.toLower == t.toList.map Char.toLower

/-- A name that is none of a kind. -/
structure UnknownKind where
  name : String
deriving DecidableEq

/-- The message about an unknown kind. -/
def UnknownKind.message (fault : UnknownKind) : String := "Unknown expression kind: " ++ fault.name

namespace ExprKind

/-- All kinds. -/
def all : List ExprKind :=
  [.and, .or, .equal, .notEqual, .greaterThan, .greaterThanOrEqual, .lessThan, .lessThanOrEqual,
    .function]

/-- The name of a kind. -/
def name : ExprKind → String
  | .and => "And"
  | .or => "Or"
  | .equal => "Equal"
  | .notEqual => "NotEqual"
  | .greaterThan => "GreaterThan"
  | .greaterThanOrEqual => "GreaterThanOrEqual"
  | .lessThan => "LessThan"
  | .lessThanOrEqual => "LessThanOrEqual"
  | .function => "Function"

/-- The kind with a given name. -/
def ofName (s : String) : Except UnknownKind ExprKind :=
  match all.find? fun kind => sameIgnoringCase kind.name s with
  | some kind => .ok kind
  | none => .error ⟨s⟩

theorem mem_all (kind : ExprKind) :
  kind ∈ all
  := by
  cases kind <;> decide

/-- The name of a kind is read as the kind. -/
theorem ofName_name (kind : ExprKind) :
  ofName kind.name = .ok kind
  := by
  cases kind <;> rfl

theorem name_injective {kind other : ExprKind} (h : kind.name = other.name) :
  kind = other
  := by
  revert h
  cases kind <;> cases other <;> decide

end ExprKind

end FilterQuery
