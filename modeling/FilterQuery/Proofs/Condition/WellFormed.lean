import FilterQuery.Proofs.Compiler.Depth
import FilterQuery.Proofs.Condition.Truth

/-!
# Well-formed queries

`IsStoreFilter` is the grammar of conditions in the language of the store: a logical operator over
two conditions, or a field with what its value is compared with.  Which names a field may have is
left open there.  Every query is in the grammar, and its fields are the paths that the filter names.
Nothing else is asked of these, so the main statement is that a query has only field names in the
place of fields, ones that are not empty and do not begin with a dollar sign, exactly when the
filter names no other paths.
-/

namespace FilterQuery

/-! ### The grammar of the store -/

/-- What an operator of the store compares with: scalars, or an array of scalars for membership. -/
def Operator.Accepts (operator : Operator) (operand : Bson) : Prop :=
  if operator.isMembership then ∃ items, operand = .array items ∧ ∀ b ∈ items, b.isScalar
  else operand.isScalar

/-- A condition in the language of the store whose fields have names of a given sort. -/
inductive IsStoreFilter (isField : String → Prop) : Document → Prop
  /-- A logical operator over two conditions. -/
  | join {name : String} {left right : Document} (logical : name = "$and" ∨ name = "$or")
      (isLeft : IsStoreFilter isField left) (isRight : IsStoreFilter isField right) :
      IsStoreFilter isField [(name, .array [.document left, .document right])]
  /-- A field is equal to a scalar, or matches it if it is a regular expression. -/
  | equal {field : String} {operand : Bson} (named : isField field) (scalar : operand.isScalar) :
      IsStoreFilter isField [(field, operand)]
  /-- An operator of comparison or membership under a field. -/
  | compare {field name : String} {operator : Operator} {operand : Bson} (named : isField field)
      (known : Operator.ofName? name = some operator) (accepted : operator.Accepts operand) :
      IsStoreFilter isField [(field, .document [(name, operand)])]

/-- Whether a name can be that of a field in the store. -/
def IsFieldName (name : String) : Prop := name ≠ "" ∧ name.toList.head? ≠ some '$'

instance (name : String) : Decidable (IsFieldName name) := inferInstanceAs (Decidable (_ ∧ _))

/-! ### Conditions -/

namespace Condition

/-- Whether something is true of all atoms of a condition. -/
def Forall (P : String → Operator → Bson → Prop) : Condition → Prop
  | .atom path operator operand => P path operator operand
  | .and left right => left.Forall P ∧ right.Forall P
  | .or left right => left.Forall P ∧ right.Forall P

variable {P Q : String → Operator → Bson → Prop} {m : Condition}

theorem Forall.mono (h : m.Forall P) (imp : ∀ path operator operand, P path operator operand →
    Q path operator operand) :
  m.Forall Q
  := by
  induction m with
  | atom path operator operand => apply imp _ _ _ h
  | and left right onLeft onRight => exact ⟨onLeft h.1, onRight h.2⟩
  | or left right onLeft onRight => exact ⟨onLeft h.1, onRight h.2⟩

/-- What is true of the path of all atoms is true of the only path there is. -/
theorem forall_path_iff {path : String} (one : m.Forall fun other _ _ => other = path)
    (isField : String → Prop) :
  (m.Forall fun other _ _ => isField other) ↔ isField path
  := by
  induction m with
  | atom other operator operand =>
    cases one
    rfl
  | and left right onLeft onRight => rw [Forall, onLeft one.1, onRight one.2, and_self]
  | or left right onLeft onRight => rw [Forall, onLeft one.1, onRight one.2, and_self]

end Condition

section Grammar

variable {isField : String → Prop}

theorem isStoreFilter_join_iff {name : String} {left right : Document}
    (logical : name = "$and" ∨ name = "$or") :
  IsStoreFilter isField [(name, .array [.document left, .document right])]
    ↔ IsStoreFilter isField left ∧ IsStoreFilter isField right
  := by
  constructor
  · intro h
    cases h with
    | join _ isLeft isRight => exact ⟨isLeft, isRight⟩
    | equal _ scalar => cases scalar
  · rintro ⟨isLeft, isRight⟩
    exact .join logical isLeft isRight

theorem isStoreFilter_equal_iff {field : String} {operand : Bson} (scalar : operand.isScalar) :
  IsStoreFilter isField [(field, operand)] ↔ isField field
  := by
  constructor
  · intro h
    cases h with
    | join => cases scalar
    | equal named => exact named
    | compare => cases scalar
  · intro named
    exact .equal named scalar

theorem isStoreFilter_compare_iff {field name : String} {operator : Operator} {operand : Bson}
    (known : Operator.ofName? name = some operator) (accepted : operator.Accepts operand) :
  IsStoreFilter isField [(field, .document [(name, operand)])] ↔ isField field
  := by
  constructor
  · intro h
    cases h with
    | equal _ scalar => cases scalar
    | compare named => exact named
  · intro named
    exact .compare named known accepted

/-- The query of a condition is in the grammar when the paths of its atoms are fields. -/
theorem isStoreFilter_toQuery_iff {m : Condition}
    (accepted : m.Forall fun _ operator operand => operator.Accepts operand) :
  IsStoreFilter isField m.toQuery.document ↔ m.Forall fun path _ _ => isField path
  := by
  induction m with
  | atom path operator operand =>
    rw [Condition.toQuery]
    split
    · next unnamed =>
      cases operator <;> cases unnamed
      apply isStoreFilter_equal_iff accepted
    · next name named =>
      apply isStoreFilter_compare_iff (Operator.ofName?_of_name? named) accepted
  | and left right onLeft onRight =>
    rw [Condition.Forall, ← onLeft accepted.1, ← onRight accepted.2]
    apply isStoreFilter_join_iff (.inl rfl)
  | or left right onLeft onRight =>
    rw [Condition.Forall, ← onLeft accepted.1, ← onRight accepted.2]
    apply isStoreFilter_join_iff (.inr rfl)

end Grammar

/-! ### The paths of a filter -/

/-- The left operands of the expressions that join nothing, in order. -/
def Operand.targets : Operand → List Operand
  | .expression kind left right => if kind.joins then left.targets ++ right.targets else [left]
  | _ => []

/-- The operands of a filter that name paths, in order. -/
def Filter.targets (filter : Filter) : List Operand := filter.root.toOperand.targets

section Targets

variable {c : Compiler} {paths : FieldArena} {kind : ExprKind} {left right : Operand}
  {m : Condition}

/-- A condition on one path, with operands that its operators accept. -/
def Condition.IsOn (path : String) (m : Condition) : Prop :=
  m.Forall fun other operator operand => other = path ∧ operator.Accepts operand

theorem isOn_of_equality? {negated : Bool} {encoder : Encoder} {path : String}
    (scalar : encoder.IsScalar) (h : Condition.equality? negated encoder path right = some m) :
  m.IsOn path
  := by
  cases right with
  | range r =>
    cases h
    cases negated <;> exact ⟨⟨rfl, scalar _⟩, rfl, scalar _⟩
  | list values =>
    have items : ∀ b ∈ values.map encoder.encode, b.isScalar := by
      intro b hb
      obtain ⟨value, -, rfl⟩ := List.mem_map.1 hb
      apply scalar
    cases h
    cases negated <;> exact ⟨rfl, _, rfl, items⟩
  | literal value =>
    cases h
    cases negated <;> exact ⟨rfl, scalar value⟩
  | _ => cases h

theorem isOn_of_comparison? {encoder : Encoder} {operator : Operator} {path : String}
    (scalar : encoder.IsScalar) (single : operator.isMembership = false)
    (h : Condition.comparison? encoder operator path right = some m) :
  m.IsOn path
  := by
  cases right with
  | literal value =>
    cases h
    refine ⟨rfl, ?_⟩
    rw [Operator.Accepts, single]
    apply scalar
  | _ => cases h

theorem isOn_of_application? (h : Condition.application? c paths left right = some m) :
  ∃ path, left.path? c paths = some path ∧ m.IsOn path
  := by
  cases left with
  | field ref =>
    cases right with
    | call call =>
      obtain ⟨path, found, h⟩ := Option.bind_eq_some_iff.1 h
      obtain ⟨pattern, -, h⟩ := Option.bind_eq_some_iff.1 h
      cases h
      exact ⟨path, found, rfl, rfl⟩
    | _ => cases h
  | _ => cases h

/-- An expression that joins nothing is about the path of its left operand. -/
theorem isOn_of_condition? (leaf : ¬ kind.joins) (scalar : c.encoder.IsScalar)
    (h : (Operand.expression kind left right).condition? c paths = some m) :
  ∃ path, left.path? c paths = some path ∧ m.IsOn path
  := by
  cases kind with
  | and => cases leaf rfl
  | or => cases leaf rfl
  | equal =>
    obtain ⟨path, found, h⟩ := Option.bind_eq_some_iff.1 h
    exact ⟨path, found, isOn_of_equality? scalar h⟩
  | notEqual =>
    obtain ⟨path, found, h⟩ := Option.bind_eq_some_iff.1 h
    exact ⟨path, found, isOn_of_equality? scalar h⟩
  | function => apply isOn_of_application? h
  | _ =>
    obtain ⟨path, found, h⟩ := Option.bind_eq_some_iff.1 h
    exact ⟨path, found, isOn_of_comparison? scalar rfl h⟩

/-- An expression that joins others is about what they are about. -/
theorem exists_of_condition?_joins (joins : kind.joins)
    (h : (Operand.expression kind left right).condition? c paths = some m) :
  ∃ first second, left.condition? c paths = some first ∧ right.condition? c paths = some second
    ∧ ∀ P, m.Forall P ↔ first.Forall P ∧ second.Forall P
  := by
  rw [condition?_of_joins _ _ _ _ joins] at h
  obtain ⟨first, isFirst, h⟩ := Option.bind_eq_some_iff.1 h
  obtain ⟨second, isSecond, h⟩ := Option.bind_eq_some_iff.1 h
  cases h
  refine ⟨first, second, isFirst, isSecond, fun P => ?_⟩
  cases kind with
  | and | or => rfl
  | _ => cases joins

/-- The operators of a condition accept their operands, and its paths are those that the operand
names. -/
theorem forall_of_condition? (scalar : c.encoder.IsScalar) {o : Operand}
    (h : o.condition? c paths = some m) :
  (m.Forall fun _ operator operand => operator.Accepts operand)
    ∧ ∀ isField : String → Prop, (m.Forall fun path _ _ => isField path)
        ↔ ∀ target ∈ o.targets, ∃ path, target.path? c paths = some path ∧ isField path
  := by
  induction o generalizing m with
  | expression kind left right onLeft onRight =>
    by_cases joins : kind.joins
    · obtain ⟨first, second, isFirst, isSecond, both⟩ := exists_of_condition?_joins joins h
      obtain ⟨leftAccepts, leftPaths⟩ := onLeft isFirst
      obtain ⟨rightAccepts, rightPaths⟩ := onRight isSecond
      refine ⟨(both _).2 ⟨leftAccepts, rightAccepts⟩, fun isField => ?_⟩
      rw [both, leftPaths, rightPaths, Operand.targets, if_pos joins, List.forall_mem_append]
    · obtain ⟨path, found, on⟩ := isOn_of_condition? joins scalar h
      refine ⟨on.mono fun _ _ _ h => h.2, fun isField => ?_⟩
      rw [Condition.forall_path_iff (on.mono fun _ _ _ h => h.1), Operand.targets, if_neg joins]
      simp [found]
  | _ => cases h

end Targets

/-! ### Names of fields -/

section Names

variable {arena : FieldArena} {ref : FieldRef}

/-- Whether an operand names a path that can be a field of the store: a string that is a field name,
or a field whose first segment does not begin with a dollar sign, and is not empty unless there are
others. -/
def Operand.NamesField (paths : FieldArena) : Operand → Prop
  | .field ref => ∃ first rest, paths.segments? ref = some (first :: rest)
      ∧ (first ≠ "" ∨ rest ≠ []) ∧ first.toList.head? ≠ some '$'
  | .literal (.string path) => IsFieldName path
  | _ => False

/-- A field has at least one segment. -/
theorem exists_of_segments? {names : List String} (h : arena.segments? ref = some names) :
  ∃ first rest, names = first :: rest
  := by
  rw [FieldArena.segments?] at h
  split at h
  · cases h
  · split at h
    · cases h
      exact ⟨_, [], rfl⟩
    · split at h
      · obtain ⟨above, -, rfl⟩ := Option.map_eq_some_iff.1 h
        cases above with
        | nil => exact ⟨_, [], rfl⟩
        | cons first rest => exact ⟨first, _, rfl⟩
      · cases h

/-- How a dotted path begins is how its first segment does; a path of more than one segment is not
empty. -/
theorem isFieldName_dottedPath_iff (first : String) (rest : List String) :
  IsFieldName (dottedPath (first :: rest))
    ↔ (first ≠ "" ∨ rest ≠ []) ∧ first.toList.head? ≠ some '$'
  := by
  cases rest with
  | nil =>
    have same : dottedPath [first] = first := by
      simp [dottedPath, List.intercalate]
    simp [IsFieldName, same]
  | cons second rest =>
    have shape : (dottedPath (first :: second :: rest)).toList
        = first.toList ++ '.' :: (dottedPath (second :: rest)).toList := by
      simp [dottedPath, List.intercalate]
    rw [IsFieldName, ne_eq, ← String.toList_eq_nil_iff, shape]
    cases first.toList <;> simp

/-- Renaming a segment keeps whether it is empty and whether it begins with a dollar sign. -/
theorem segmentName_default (name : String) :
  (Compiler.default.segmentName name = "" ↔ name = "")
    ∧ ((Compiler.default.segmentName name).toList.head? = some '$' ↔ name.toList.head? = some '$')
  := by
  rw [Compiler.segmentName]
  split
  · next identity => rcases identity with rfl | rfl <;> decide
  · simp

/-- An operand names a field when its path in the store is a field name. -/
theorem namesField_iff (target : Operand) :
  target.NamesField arena ↔ ∃ path, target.path? .default arena = some path ∧ IsFieldName path
  := by
  cases target with
  | field ref =>
    rw [Operand.NamesField, Operand.path?, Compiler.resolve?]
    cases found : arena.segments? ref with
    | none => simp
    | some names =>
      obtain ⟨first, rest, rfl⟩ := exists_of_segments? found
      obtain ⟨empty, begins⟩ := segmentName_default first
      have named : IsFieldName (dottedPath ((first :: rest).map Compiler.default.segmentName))
          ↔ (first ≠ "" ∨ rest ≠ []) ∧ first.toList.head? ≠ some '$' := by
        rw [List.map_cons, isFieldName_dottedPath_iff]
        simp only [ne_eq, empty, begins, List.map_eq_nil_iff]
      constructor
      · rintro ⟨_, _, same, fits⟩
        cases same
        exact ⟨_, rfl, named.2 fits⟩
      · rintro ⟨_, same, fits⟩
        cases same
        exact ⟨first, rest, rfl, named.1 fits⟩
  | literal value => cases value <;> simp [Operand.NamesField, Operand.path?]
  | _ => simp [Operand.NamesField, Operand.path?]

end Names

/-! ### Queries of filters -/

/-- A query is in the grammar of the store, with the paths that the filter names as fields; and its
fields have names that fields can have exactly when the filter names no other paths. -/
theorem isStoreFilter_compile (filter : Filter) (q : Query)
    (h : (Compiler.default.compile filter).result = .ok q) :
  IsStoreFilter (fun field => ∃ target ∈ filter.targets,
      target.path? .default filter.paths = some field) q.document
    ∧ (IsStoreFilter IsFieldName q.document
      ↔ ∀ target ∈ filter.targets, target.NamesField filter.paths)
  := by
  obtain ⟨m, reads, rfl⟩ := condition_of_compile rfl h
  obtain ⟨accepted, paths⟩ := forall_of_condition? Encoder.isScalar_bson reads
  constructor
  · have named := (paths fun _ => True).1 (accepted.mono fun _ _ _ _ => trivial)
    rw [isStoreFilter_toQuery_iff accepted, paths]
    intro target listed
    obtain ⟨path, found, -⟩ := named target listed
    exact ⟨path, found, target, listed, found⟩
  · rw [isStoreFilter_toQuery_iff accepted, paths]
    apply forall₂_congr
    intro target listed
    rw [namesField_iff]

/-- A field whose first segment is empty is one in the store if it has other segments, however these
begin. -/
theorem isStoreFilter_compile_owned :
  let f : Filter := ⟨⟨[⟨"", none⟩, ⟨"$id", some ⟨0⟩⟩]⟩,
    .or (.ne ⟨1⟩ (.list [.int 1, .null])) (.call ⟨1⟩ "Like" [.string "^a"])⟩
  let q : Query := .or [.notIn ".$id" [.int64 1, .null], .matching ".$id" (.plain "^a")]
  (Compiler.default.compile f).result = .ok q
    ∧ IsStoreFilter (fun field => ∃ target ∈ f.targets,
        target.path? .default f.paths = some field) q.document
    ∧ IsStoreFilter IsFieldName q.document
  := by
  intro f q
  have owner : f.paths.segments? ⟨0⟩ = some [""] := FieldArena.segments?_of_root _ rfl
  have child : f.paths.get? ⟨1⟩ = some ⟨"$id", some ⟨0⟩⟩ := rfl
  have segments : f.paths.segments? ⟨1⟩ = some ["", "$id"] := by
    rw [FieldArena.segments?_of_child _ child, owner]
    rfl
  have made : (Compiler.default.compile f).result = .ok q := by
    rw [Compiler.result_compile]
    simp only [f, Compiler.operand, Expression.or, Expression.ne, Expression.call,
      Expression.toOperand, Compiler.application, Compiler.inequality, Compiler.path,
      Compiler.resolve?, segments]
    rfl
  obtain ⟨grammar, names⟩ := isStoreFilter_compile f q made
  refine ⟨made, grammar, names.2 ?_⟩
  intro target listed
  have only : target = .field ⟨1⟩ := by
    simpa [f, Filter.targets, Operand.targets, Expression.or, Expression.ne, Expression.call,
      Expression.toOperand, ExprKind.joins] using listed
  rw [only]
  exact ⟨"", ["$id"], segments, by decide⟩

/-- The name of a field may begin with a dollar sign, and a string taken for a path may be empty. -/
theorem not_isStoreFilter_compile :
  ∃ q, (Compiler.default.compile ⟨⟨[⟨"$where", none⟩]⟩,
      .and (.eq ⟨0⟩ (.literal (.string "true")))
        ⟨.greaterThan, .literal (.string ""), .literal (.int 0)⟩⟩).result = .ok q
    ∧ ¬ IsStoreFilter IsFieldName q.document
  := by
  use .and [.eq "$where" (.string "true"), .gt "" (.int64 0)]
  constructor
  · have root : FieldArena.segments? ⟨[⟨"$where", none⟩]⟩ ⟨0⟩ = some ["$where"] :=
      FieldArena.segments?_of_root _ rfl
    rw [Compiler.result_compile]
    simp only [Compiler.operand, Expression.and, Expression.eq, Expression.toOperand,
      Compiler.equality, Compiler.path, Compiler.resolve?, root]
    rfl
  · intro h
    have named := ((isStoreFilter_join_iff (.inl rfl)).1 h).1
    rw [Query.eq, isStoreFilter_equal_iff rfl] at named
    revert named
    decide

end FilterQuery
