import FilterQuery.Query

/-!
# Conditions

A `Condition` is a tree of conjunctions and disjunctions over atoms; an atom compares the value at a
path of the store with an operand.  `Condition.toQuery` writes a condition in the language of the
store.  `Condition.IsPlain` is what the operands of a condition are when they come from literals.
-/

namespace FilterQuery

/-- A way to compare the value at a path. -/
inductive Operator where
  | equal
  | notEqual
  | greater
  | greaterOrEqual
  | less
  | lessOrEqual
  | isIn
  | notIn
deriving DecidableEq

namespace Operator

/-- The name of an operator in the store; equality has none. -/
def name? : Operator → Option String
  | .equal => none
  | .notEqual => some "$ne"
  | .greater => some "$gt"
  | .greaterOrEqual => some "$gte"
  | .less => some "$lt"
  | .lessOrEqual => some "$lte"
  | .isIn => some "$in"
  | .notIn => some "$nin"

/-- The operator with a given name. -/
def ofName? : String → Option Operator
  | "$ne" => some .notEqual
  | "$gt" => some .greater
  | "$gte" => some .greaterOrEqual
  | "$lt" => some .less
  | "$lte" => some .lessOrEqual
  | "$in" => some .isIn
  | "$nin" => some .notIn
  | _ => none

/-- Whether an operator compares with the items of an array. -/
def isMembership : Operator → Bool
  | .isIn => true
  | .notIn => true
  | _ => false

theorem ofName?_of_name? {operator : Operator} {name : String} (h : operator.name? = some name) :
  ofName? name = some operator
  := by
  cases operator <;> simp [name?] at h <;> subst h <;> rfl

end Operator

/-- A tree of conditions on the values at paths. -/
inductive Condition where
  | atom (path : String) (operator : Operator) (operand : Bson)
  | and (left right : Condition)
  | or (left right : Condition)

namespace Condition

/-- A condition in the language of the store. -/
def toQuery : Condition → Query
  | .atom path operator operand =>
    match operator.name? with
    | none => .eq path operand
    | some name => .operator path name operand
  | .and left right => .and [left.toQuery, right.toQuery]
  | .or left right => .or [left.toQuery, right.toQuery]

end Condition

/-- Whether a value of the store is neither an array nor a document. -/
def Bson.isScalar : Bson → Bool
  | .array _ => false
  | .document _ => false
  | _ => true

namespace Condition

/-- Membership has arrays as operands, and all other atoms have scalars. -/
def IsPlain : Condition → Prop
  | .atom _ operator operand =>
    if operator.isMembership then ∃ items, operand = .array items else operand.isScalar
  | .and left right => left.IsPlain ∧ right.IsPlain
  | .or left right => left.IsPlain ∧ right.IsPlain

end Condition

end FilterQuery
