import FilterQuery.Proofs.Condition.Normal

/-!
# The meaning of filters and queries

An `Interpretation` says which atoms are true.  It gives a truth value to conditions, and so to the
filters that express them, and to values of the store, read as conditions: `Bson.truth?` knows the
logical operators, the operators of comparison, and nothing of filters.  The main statement is that
a filter and its query have the same truth value in every interpretation.
-/

namespace FilterQuery

/-- What is true of the values at paths. -/
structure Interpretation where
  /-- Whether the value at a path compares with an operand. -/
  compares : (path : String) → Operator → (operand : Bson) → Bool
  /-- Whether the value at a path matches a regular expression. -/
  isMatch : (path : String) → Pattern → Bool

/-- Whether an atom is true.  Equality with a regular expression is a match. -/
def Interpretation.holds (I : Interpretation) (path : String) (operator : Operator)
    (operand : Bson) : Bool :=
  match operator, operand with
  | .equal, .regex pattern => I.isMatch path pattern
  | operator, operand => I.compares path operator operand

/-- Whether a condition is true. -/
def Condition.holds (I : Interpretation) : Condition → Bool
  | .atom path operator operand => I.holds path operator operand
  | .and left right => left.holds I && right.holds I
  | .or left right => left.holds I || right.holds I

/-- Whether a filter is true, if it expresses a condition. -/
def Filter.truth? (c : Compiler) (I : Interpretation) (filter : Filter) : Option Bool :=
  (filter.condition? c).map (Condition.holds I)

mutual

/-- Whether a value of the store is true, if it is a document with one member. -/
def Bson.truth? (I : Interpretation) : Bson → Option Bool
  | .document [(key, .array items)] =>
    if key = "$and" then (Bson.truths? I items).map fun truths => truths.all id
    else if key = "$or" then (Bson.truths? I items).map fun truths => truths.any id
    else some (I.holds key .equal (.array items))
  | .document [(key, .document [(name, operand)])] =>
    match Operator.ofName? name with
    | some operator => some (I.holds key operator operand)
    | none => some (I.holds key .equal (.document [(name, operand)]))
  | .document [(key, operand)] => some (I.holds key .equal operand)
  | _ => none

/-- Whether values of the store are true, one by one. -/
def Bson.truths? (I : Interpretation) : List Bson → Option (List Bool)
  | [] => some []
  | b :: items => do some ((← b.truth? I) :: (← Bson.truths? I items))

end

/-- Whether a query is true. -/
def Query.truth? (I : Interpretation) (q : Query) : Option Bool :=
  (Bson.document q.document).truth? I

/-- Literals are encoded as scalars. -/
theorem Bson.isScalar_ofValue (value : Value) :
  (Bson.ofValue value).isScalar
  := by
  cases value with
  | uint n =>
    simp only [Bson.ofValue]
    split <;> rfl
  | _ => rfl

/-! ### Plain conditions -/

section Plain

variable {c : Compiler} {paths : FieldArena} {left right : Operand} {m : Condition}

/-- An encoder gives scalars when it encodes all literals as such. -/
def Encoder.IsScalar (encoder : Encoder) : Prop := ∀ value, (encoder.encode value).isScalar

theorem Encoder.isScalar_bson :
  Encoder.bson.IsScalar
  := Bson.isScalar_ofValue

theorem isPlain_of_equality? {negated : Bool} {encoder : Encoder} {path : String}
    (scalar : encoder.IsScalar) (h : Condition.equality? negated encoder path right = some m) :
  m.IsPlain
  := by
  cases right with
  | range r =>
    cases h
    cases negated <;> exact ⟨scalar _, scalar _⟩
  | list values =>
    cases h
    cases negated <;> exact ⟨_, rfl⟩
  | literal value =>
    cases h
    cases negated <;> exact scalar value
  | _ => cases h

theorem isPlain_of_comparison? {encoder : Encoder} {operator : Operator} {path : String}
    (scalar : encoder.IsScalar) (single : operator.isMembership = false)
    (h : Condition.comparison? encoder operator path right = some m) :
  m.IsPlain
  := by
  cases right with
  | literal value =>
    cases h
    simpa [Condition.IsPlain, single] using scalar value
  | _ => cases h

theorem isPlain_of_application? (h : Condition.application? c paths left right = some m) :
  m.IsPlain
  := by
  cases left with
  | field ref =>
    cases right with
    | call call =>
      obtain ⟨path, -, h⟩ := Option.bind_eq_some_iff.1 h
      obtain ⟨pattern, -, h⟩ := Option.bind_eq_some_iff.1 h
      cases h
      rfl
    | _ => cases h
  | _ => cases h

/-- The operands of a condition are plain when those that come from literals are scalars. -/
theorem isPlain_of_condition? (scalar : c.encoder.IsScalar) {o : Operand}
    (h : o.condition? c paths = some m) :
  m.IsPlain
  := by
  induction o generalizing m with
  | expression kind left right leftPlain rightPlain =>
    cases kind with
    | and =>
      obtain ⟨first, isFirst, h⟩ := Option.bind_eq_some_iff.1 h
      obtain ⟨second, isSecond, h⟩ := Option.bind_eq_some_iff.1 h
      cases h
      exact ⟨leftPlain isFirst, rightPlain isSecond⟩
    | or =>
      obtain ⟨first, isFirst, h⟩ := Option.bind_eq_some_iff.1 h
      obtain ⟨second, isSecond, h⟩ := Option.bind_eq_some_iff.1 h
      cases h
      exact ⟨leftPlain isFirst, rightPlain isSecond⟩
    | equal =>
      obtain ⟨path, -, h⟩ := Option.bind_eq_some_iff.1 h
      apply isPlain_of_equality? scalar h
    | notEqual =>
      obtain ⟨path, -, h⟩ := Option.bind_eq_some_iff.1 h
      apply isPlain_of_equality? scalar h
    | function => apply isPlain_of_application? h
    | _ =>
      obtain ⟨path, -, h⟩ := Option.bind_eq_some_iff.1 h
      apply isPlain_of_comparison? scalar rfl h
  | _ => cases h

end Plain

/-! ### Conditions in the language of the store -/

section Store

variable (I : Interpretation)

/-- A scalar under a key is read as equality. -/
theorem truth?_scalar (path : String) {operand : Bson} (scalar : operand.isScalar) :
  (Query.eq path operand).truth? I = some (I.holds path .equal operand)
  := by
  cases operand <;> first | rfl | cases scalar

/-- A named operator under a key is read as that operator. -/
theorem truth?_operator (path : String) (operand : Bson) {operator : Operator} {name : String}
    (h : operator.name? = some name) :
  (Query.operator path name operand).truth? I = some (I.holds path operator operand)
  := by
  rw [Query.truth?, Query.operator, Bson.truth?, Operator.ofName?_of_name? h]

theorem truths?_documents (queries : List Query) :
  Bson.truths? I (queries.map fun q => .document q.document) = queries.mapM (Query.truth? I)
  := by
  induction queries with
  | nil => simp [Bson.truths?]
  | cons q rest ih =>
    rw [List.map_cons, Bson.truths?, ih, List.mapM_cons]
    rfl

/-- A conjunction is true when all its queries are. -/
theorem truth?_and (queries : List Query) :
  (Query.and queries).truth? I
    = (queries.mapM (Query.truth? I)).map fun truths => truths.all id
  := by
  rw [Query.truth?, Query.and, Query.combine, Bson.truth?, if_pos rfl, truths?_documents]

/-- A disjunction is true when one of its queries is. -/
theorem truth?_or (queries : List Query) :
  (Query.or queries).truth? I
    = (queries.mapM (Query.truth? I)).map fun truths => truths.any id
  := by
  rw [Query.truth?, Query.or, Query.combine, Bson.truth?, if_neg (by decide), if_pos rfl,
    truths?_documents]

/-- A plain condition has the truth value that the store finds in it. -/
theorem truth?_toQuery {m : Condition} (plain : m.IsPlain) :
  m.toQuery.truth? I = some (m.holds I)
  := by
  induction m with
  | atom path operator operand =>
    rw [Condition.toQuery]
    split
    · next name =>
      cases operator <;> cases name
      apply truth?_scalar I path plain
    · next name =>
      apply truth?_operator I path operand name
  | and left right leftTruth rightTruth =>
    simp [Condition.toQuery, truth?_and, leftTruth plain.1, rightTruth plain.2, Condition.holds]
  | or left right leftTruth rightTruth =>
    simp [Condition.toQuery, truth?_or, leftTruth plain.1, rightTruth plain.2, Condition.holds]

end Store

/-- The compiler with the encoder of the store and the pattern functions, under given settings. -/
def Compiler.ofSettings (settings : Settings) : Compiler := ⟨.bson, .builtin, settings⟩

/-- A filter and its query have the same truth value. -/
theorem truth_compile (settings : Settings) (filter : Filter) (q : Query)
    (h : ((Compiler.ofSettings settings).compile filter).result = .ok q) (I : Interpretation) :
  ∃ b, filter.truth? (.ofSettings settings) I = some b ∧ q.truth? I = some b
  := by
  obtain ⟨m, reads, rfl⟩ := condition_of_compile rfl h
  use m.holds I
  constructor
  · simp [Filter.truth?, reads]
  · apply truth?_toQuery
    apply isPlain_of_condition? Encoder.isScalar_bson reads

/-- Paths that are named as logical operators are still paths. -/
theorem truth_compile_operator_paths :
  ∃ q, ((Compiler.ofSettings .default).compile ⟨.empty,
      .or ⟨.equal, .literal (.string "$or"), .range ⟨.int 1, .int 2⟩⟩
        ⟨.notEqual, .literal (.string "$and"), .list [.null]⟩⟩).result = .ok q
    ∧ ∀ I, ∃ b, Filter.truth? (.ofSettings .default) I ⟨.empty,
      .or ⟨.equal, .literal (.string "$or"), .range ⟨.int 1, .int 2⟩⟩
        ⟨.notEqual, .literal (.string "$and"), .list [.null]⟩⟩ = some b
      ∧ q.truth? I = some b
  := ⟨_, rfl, truth_compile _ _ _ rfl⟩

end FilterQuery
