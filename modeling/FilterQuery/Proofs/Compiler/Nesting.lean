import FilterQuery.Proofs.Compiler.Depth
import FilterQuery.Proofs.Condition.Truth

/-!
# Logical operators inside each other

A query has a logical operator for each expression that joins two others, and one more for a range;
a function may bring some of its own.  So a query has no more of them inside each other than the
limit on the depth of expressions allows, apart from those that functions bring.  The main statement
says this along with what a limit means for the result: a filter that is accepted under some limit
is accepted exactly under those that are not less than its height, and it always becomes the same
query.
-/

namespace FilterQuery

/-! ### Values of the store -/

mutual

/-- The greatest number of counted members inside each other in a value of the store. -/
def Bson.nesting (counted : String → Bson → Bool) : Bson → Nat
  | .array items => Bson.itemsNesting counted items
  | .document members => Bson.membersNesting counted members
  | _ => 0

def Bson.itemsNesting (counted : String → Bson → Bool) : List Bson → Nat
  | [] => 0
  | b :: items => max (b.nesting counted) (Bson.itemsNesting counted items)

def Bson.membersNesting (counted : String → Bson → Bool) : List (String × Bson) → Nat
  | [] => 0
  | (name, b) :: members =>
    max ((counted name b).toNat + b.nesting counted) (Bson.membersNesting counted members)

end

/-- The greatest number of counted members inside each other in a query. -/
def Query.nesting (counted : String → Bson → Bool) (q : Query) : Nat :=
  (Bson.document q.document).nesting counted

/-- Whether a name is that of a logical operator of the store. -/
def isLogicalName (name : String) : Bool := name = "$and" || name = "$or"

/-- Whether a value of the store is an array. -/
def Bson.isArray : Bson → Bool
  | .array _ => true
  | _ => false

/-- Whether a member of a document is a logical operator: it is named as one and holds an array. -/
def isLogical (name : String) (value : Bson) : Bool := isLogicalName name && value.isArray

/-- Whether the functions of a registry have no more than `most` logical operators inside each other
in the queries they make. -/
def FunctionRegistry.NestsAtMost (registry : FunctionRegistry) (most : Nat) : Prop :=
  ∀ name handler, registry.get? name = some handler →
    ∀ field args q, handler field args = .ok q → q.nesting isLogical ≤ most

section Nesting

variable {field name : String} {value : Bson}

theorem Bson.nesting_of_isScalar {counted : String → Bson → Bool} (scalar : value.isScalar) :
  value.nesting counted = 0
  := by
  cases value with
  | array => cases scalar
  | document => cases scalar
  | _ => rfl

theorem Bson.itemsNesting_of_isScalar {counted : String → Bson → Bool} {items : List Bson}
    (scalar : ∀ b ∈ items, b.isScalar) :
  Bson.itemsNesting counted items = 0
  := by
  induction items with
  | nil => rfl
  | cons b items ih =>
    rw [Bson.itemsNesting, Bson.nesting_of_isScalar (scalar b List.mem_cons_self),
      ih fun b hb => scalar b (List.mem_cons_of_mem _ hb), Nat.max_self]

theorem isLogical_of_isScalar (scalar : value.isScalar) :
  isLogical name value = false
  := by
  cases value with
  | array => cases scalar
  | _ => exact Bool.and_false _

theorem isLogical_of_name (h : isLogicalName name = false) :
  isLogical name value = false
  := by
  rw [isLogical, h, Bool.false_and]

/-- An atom that has no logical operators in its operand has none at all. -/
theorem Query.nesting_operator (plain : isLogical name value = false)
    (flat : value.nesting isLogical = 0) :
  (Query.operator field name value).nesting isLogical = 0
  := by
  have notArray : isLogical field (.document [(name, value)]) = false := Bool.and_false _
  simp [Query.nesting, Query.operator, Bson.nesting, Bson.membersNesting, plain, flat, notArray]

theorem Query.nesting_operator_scalar (scalar : value.isScalar) :
  (Query.operator field name value).nesting isLogical = 0
  := Query.nesting_operator (isLogical_of_isScalar scalar) (Bson.nesting_of_isScalar scalar)

theorem Query.nesting_eq (scalar : value.isScalar) :
  (Query.eq field value).nesting isLogical = 0
  := by
  simp [Query.nesting, Query.eq, Bson.nesting, Bson.membersNesting, isLogical_of_isScalar scalar,
    Bson.nesting_of_isScalar scalar]

/-- A conjunction or disjunction of two queries is one logical operator above both. -/
theorem Query.nesting_join (kind : ExprKind) (q r : Query) :
  (kind.join [q, r]).nesting isLogical = max (q.nesting isLogical) (r.nesting isLogical) + 1
  := by
  obtain ⟨name, logical, same⟩ : ∃ name, isLogicalName name
      ∧ kind.join [q, r] = .combine name [q, r] := by
    cases kind <;> exact ⟨_, by decide, rfl⟩
  have counted : isLogical name (.array [.document q.document, .document r.document]) = true := by
    rw [isLogical, logical]
    rfl
  rw [same, Query.nesting, Query.combine, Bson.nesting, Bson.membersNesting, Bson.membersNesting]
  simp only [List.map_cons, List.map_nil, counted]
  simp only [Bson.nesting, Bson.itemsNesting, Query.nesting, Bool.toNat_true, Nat.max_zero]
  rw [Nat.add_comm]

end Nesting

section Queries

variable {c : Compiler} {paths : FieldArena} {left right : Operand} {q : Query}

/-- A range is one logical operator. -/
theorem nesting_range {field first second : String} {start stop : Bson} (kind : ExprKind)
    (hs : start.isScalar) (ht : stop.isScalar) :
  (kind.join [.operator field first start, .operator field second stop]).nesting isLogical = 1
  := by
  rw [Query.nesting_join, Query.nesting_operator_scalar hs, Query.nesting_operator_scalar ht,
    Nat.max_self]

/-- A list is no logical operator. -/
theorem nesting_membership {encoder : Encoder} {field name : String} {values : List Value}
    (scalar : encoder.IsScalar) (h : isLogicalName name = false) :
  (Query.operator field name (.array (encoder.encodeAll values))).nesting isLogical = 0
  := by
  apply Query.nesting_operator (isLogical_of_name h)
  apply Bson.itemsNesting_of_isScalar
  intro b hb
  obtain ⟨value, -, rfl⟩ := List.mem_map.1 hb
  apply scalar

theorem nesting_le_of_equality (scalar : c.encoder.IsScalar)
    (h : c.equality paths left right = .ok q) :
  q.nesting isLogical ≤ 1
  := by
  obtain ⟨field, -, h⟩ := exists_of_bind_eq_ok h
  cases right with
  | range range =>
    cases h
    apply Nat.le_of_eq (nesting_range .and (scalar _) (scalar _))
  | list values =>
    cases h
    apply Nat.le_succ_of_le (Nat.le_of_eq (nesting_membership scalar rfl))
  | literal value =>
    cases h
    apply Nat.le_succ_of_le (Nat.le_of_eq (Query.nesting_eq (scalar value)))
  | _ => cases h

theorem nesting_le_of_inequality (scalar : c.encoder.IsScalar)
    (h : c.inequality paths left right = .ok q) :
  q.nesting isLogical ≤ 1
  := by
  obtain ⟨field, -, h⟩ := exists_of_bind_eq_ok h
  cases right with
  | range range =>
    cases h
    apply Nat.le_of_eq (nesting_range .or (scalar _) (scalar _))
  | list values =>
    cases h
    apply Nat.le_succ_of_le (Nat.le_of_eq (nesting_membership scalar rfl))
  | literal value =>
    cases h
    apply Nat.le_succ_of_le (Nat.le_of_eq (Query.nesting_operator_scalar (scalar value)))
  | _ => cases h

theorem nesting_le_of_comparison {kind : ExprKind} {name : String} (scalar : c.encoder.IsScalar)
    (h : c.comparison paths kind (Query.operator · name) left right = .ok q) :
  q.nesting isLogical ≤ 1
  := by
  obtain ⟨field, -, h⟩ := exists_of_bind_eq_ok h
  cases right with
  | literal value =>
    cases h
    apply Nat.le_succ_of_le (Nat.le_of_eq (Query.nesting_operator_scalar (scalar value)))
  | _ => cases h

theorem nesting_le_of_application {most : Nat} (bound : c.registry.NestsAtMost most)
    (h : (c.application paths left right).result = .ok q) :
  q.nesting isLogical ≤ most
  := by
  cases right with
  | call call =>
    cases left with
    | field ref =>
      obtain ⟨field, -, called⟩ := Traced.result_bind_eq_ok.1 h
      rw [FunctionRegistry.call] at called
      split at called
      · next handler found => apply bound _ _ found _ _ _ called
      · cases called
    | _ => cases h
  | _ => cases h

/-- The pattern functions bring no logical operators. -/
theorem nestsAtMost_builtin (most : Nat) :
  FunctionRegistry.builtin.NestsAtMost most
  := by
  intro name handler found field args q made
  obtain ⟨pattern, -, rfl⟩ := @pattern?_of_builtin ⟨name, args⟩ _ _ _ found made
  apply Nat.le_trans (Nat.le_of_eq (Query.nesting_eq rfl)) (Nat.zero_le most)

/-- An expression that joins nothing becomes a range at most, or what a function makes. -/
theorem nesting_le_of_node {kind : ExprKind} {sub : Operand → Traced Query} {most : Nat}
    (leaf : ¬ kind.joins) (scalar : c.encoder.IsScalar) (positive : 1 ≤ most)
    (bound : c.registry.NestsAtMost most) (h : (c.node paths sub kind left right).result = .ok q) :
  q.nesting isLogical ≤ most
  := by
  cases kind with
  | and => cases leaf rfl
  | or => cases leaf rfl
  | equal => apply Nat.le_trans (nesting_le_of_equality scalar h) positive
  | notEqual => apply Nat.le_trans (nesting_le_of_inequality scalar h) positive
  | function => apply nesting_le_of_application bound h
  | _ => apply Nat.le_trans (nesting_le_of_comparison scalar h) positive

/-- The logical operators of a query are those of the expressions that join others, and those at
the end of the way down. -/
theorem nesting_lt_height_add {most : Nat} (scalar : c.encoder.IsScalar) (positive : 1 ≤ most)
    (bound : c.registry.NestsAtMost most) {o : Operand} {parent : ExprKind} {depth : Nat}
    (h : (c.operand paths parent depth o).result = .ok q) :
  q.nesting isLogical < o.height + most
  := by
  induction o generalizing parent depth q with
  | expression kind left right leftNesting rightNesting =>
    by_cases within : depth ≤ c.settings.maxDepth
    · rw [Compiler.result_operand_of_le c paths parent kind left right within] at h
      rw [Operand.height]
      split
      · next joins =>
        rw [Compiler.node_of_joins c paths joins] at h
        obtain ⟨first, isFirst, h⟩ := Traced.result_bind_eq_ok.1 h
        obtain ⟨second, isSecond, h⟩ := Traced.result_bind_eq_ok.1 h
        cases h
        have := leftNesting isFirst
        have := rightNesting isSecond
        rw [Query.nesting_join]
        omega
      · next leaf =>
        have := nesting_le_of_node leaf scalar positive bound h
        omega
    · rw [Compiler.operand_of_lt c paths parent kind left right (Nat.lt_of_not_le within)] at h
      cases h
  | _ => cases h

end Queries

/-! ### Filters -/

section Filters

variable (c : Compiler) (filter : Filter)

/-- A filter is too deep exactly when its root is. -/
theorem isTooDeep_compile :
  (c.compile filter).IsTooDeep
    ↔ (c.operand filter.paths filter.root.kind 1 filter.root.toOperand).IsTooDeep
  := by
  rw [Traced.IsTooDeep, Traced.IsTooDeep, Compiler.result_compile]

/-- A filter is accepted under a limit exactly when it is accepted under some limit and this one is
not less than its height; a run that a limit does not stop is the same under a greater one; and when
literals are encoded as scalars, a query has no more logical operators inside each other than the
limit, where functions bring no more than a range does. -/
theorem compile_withMaxDepth (n m : Nat) (positive : 1 ≤ n) (le : n ≤ m) :
  (∀ q, ((c.withMaxDepth n).compile filter).result = .ok q
      ↔ filter.height ≤ n ∧ ∃ limit ≥ 1, ((c.withMaxDepth limit).compile filter).result = .ok q)
    ∧ (¬ ((c.withMaxDepth n).compile filter).IsTooDeep →
        (c.withMaxDepth m).compile filter = (c.withMaxDepth n).compile filter)
    ∧ ∀ most ≥ 1, c.encoder.IsScalar → c.registry.NestsAtMost most →
        ∀ q, ((c.withMaxDepth n).compile filter).result = .ok q →
          q.nesting isLogical < n + most
  := by
  have height_le {limit : Nat} {q : Query}
      (accepts : ((c.withMaxDepth limit).compile filter).result = .ok q) :
      filter.height ≤ limit := by
    rw [Compiler.result_compile] at accepts
    have := Compiler.depth_add_height_le (c.withMaxDepth limit) filter.paths accepts
    rw [Nat.add_comm] at this
    apply Nat.le_of_succ_le_succ this
  refine ⟨?accepted, ?monotone, ?nested⟩
  case accepted =>
    intro q
    constructor
    · intro accepts
      exact ⟨height_le accepts, n, positive, accepts⟩
    · rintro ⟨high, limit, -, accepts⟩
      have := height_le accepts
      rw [Compiler.result_compile] at accepts
      rw [Compiler.result_compile, ← accepts]
      rw [Compiler.operand_withMaxDepth_of_height c filter.paths]
      · change 1 + filter.height ≤ limit + 1
        omega
      · change 1 + filter.height ≤ n + 1
        omega
  case monotone =>
    intro free
    rw [isTooDeep_compile] at free
    rw [Compiler.compile, Compiler.compile, Compiler.expression, Compiler.expression,
      Compiler.operand_withMaxDepth_of_le c filter.paths le free]
  case nested =>
    intro most one scalar bound q accepts
    have high := height_le accepts
    rw [Compiler.result_compile] at accepts
    have nested := nesting_lt_height_add (c := c.withMaxDepth n) scalar one bound accepts
    change q.nesting isLogical < filter.height + most at nested
    omega

end Filters

/-- A range at the greatest depth that is accepted is one more logical operator below those of the
expressions that join others. -/
theorem compile_withMaxDepth_range :
  let f : Filter := ⟨.empty,
    .and ⟨.notEqual, .literal (.string "age"), .range ⟨.int 1, .int 10⟩⟩
      ⟨.equal, .literal (.string "age"), .literal (.int 5)⟩⟩
  let q : Query := .and [.or [.lte "age" (.int64 1), .gte "age" (.int64 10)], .eq "age" (.int64 5)]
  f.height = 2
    ∧ ((Compiler.default.withMaxDepth 2).compile f).result = .ok q
    ∧ (∃ limit ≥ 1, ((Compiler.default.withMaxDepth limit).compile f).result = .ok q)
    ∧ (Compiler.default.withMaxDepth 256).compile f = (Compiler.default.withMaxDepth 2).compile f
    ∧ q.nesting isLogical = 2
    ∧ q.nesting isLogical < 2 + 1
  := by
  intro f q
  have made : ((Compiler.default.withMaxDepth 2).compile f).result = .ok q := rfl
  have free : ¬ ((Compiler.default.withMaxDepth 2).compile f).IsTooDeep := by
    rintro ⟨limit, stopped⟩
    cases made.symm.trans stopped
  obtain ⟨accepted, monotone, nested⟩ :=
    compile_withMaxDepth .default f 2 256 (by decide) (by decide)
  exact ⟨rfl, made, ((accepted q).1 made).2, monotone free, rfl,
    nested 1 (Nat.le_refl 1) Encoder.isScalar_bson (nestsAtMost_builtin 1) q made⟩

/-- A registry of one function, which makes a disjunction inside a conjunction. -/
def FunctionRegistry.never : FunctionRegistry :=
  FunctionRegistry.empty.register "never" fun field _ =>
    .ok (.and [.or [.eq field .null], .ne field .null])

/-- A function may make a query with more logical operators inside each other than the limit, and so
may a range on a path that is named as one if names alone are counted. -/
theorem nesting_gt_limit :
  Compiler.default.encoder.IsScalar
    ∧ (∃ q, (((Compiler.default.withRegistry .never).withMaxDepth 1).compile
          ⟨⟨[⟨"name", none⟩]⟩, .call ⟨0⟩ "never" []⟩).result = .ok q
        ∧ 1 < q.nesting isLogical)
    ∧ ∃ q, ((Compiler.default.withMaxDepth 1).compile ⟨.empty,
          ⟨.equal, .literal (.string "$and"), .range ⟨.int 1, .int 2⟩⟩⟩).result = .ok q
        ∧ 1 < q.nesting fun name _ => isLogicalName name
  := by
  refine ⟨Encoder.isScalar_bson, ⟨.and [.or [.eq "name" .null], .ne "name" .null], ?made, ?_⟩,
    .and [.gte "$and" (.int64 1), .lte "$and" (.int64 2)], rfl, ?_⟩
  case made =>
    have name : FieldArena.segments? ⟨[⟨"name", none⟩]⟩ ⟨0⟩ = some ["name"] :=
      FieldArena.segments?_of_root _ rfl
    rw [Compiler.result_compile]
    simp only [Compiler.operand, Expression.call, Expression.toOperand, Compiler.application,
      Compiler.path, Compiler.resolve?, name]
    rfl
  all_goals decide

end FilterQuery
