import FilterQuery.Proofs.Condition.Truth
import FilterQuery.Proofs.Condition.Uncalled

/-!
# Dual filters

The dual of a filter has "or" for "and", "and" for "or", and for each comparison the opposite one.
A `Store` has one value at each path and an order of all values.  In it the dual of a filter is true
where the filter is not, except that the bounds of a range belong to the range and to its dual.  The
main statement is that a filter without functions and patterns is accepted only with its dual, that
in every store one of the two is true, and that both are true only if a value of the store is at a
bound of a range.
-/

namespace FilterQuery

/-! ### Duals -/

/-- The kind that an expression of a kind has in the dual of a filter. -/
def ExprKind.dual : ExprKind → ExprKind
  | .and => .or
  | .or => .and
  | .equal => .notEqual
  | .notEqual => .equal
  | .greaterThan => .lessThanOrEqual
  | .greaterThanOrEqual => .lessThan
  | .lessThan => .greaterThanOrEqual
  | .lessThanOrEqual => .greaterThan
  | .function => .function

/-- The dual of an operand.  What an expression that joins no others has as operands is kept. -/
def Operand.dual : Operand → Operand
  | .expression kind left right =>
    .expression kind.dual (if kind.joins then left.dual else left)
      (if kind.joins then right.dual else right)
  | other => other

/-- The dual of an expression. -/
def Expression.dual (e : Expression) : Expression where
  kind := e.kind.dual
  left := if e.kind.joins then e.left.dual else e.left
  right := if e.kind.joins then e.right.dual else e.right

/-- The dual of a filter. -/
def Filter.dual (filter : Filter) : Filter := ⟨filter.paths, filter.root.dual⟩

section Dual

variable {kind : ExprKind} {left right : Operand}

theorem ExprKind.joins_dual (kind : ExprKind) :
  kind.dual.joins = kind.joins
  := by
  cases kind <;> rfl

theorem ExprKind.dual_eq_function_iff :
  .function = kind.dual ↔ .function = kind
  := by
  cases kind <;> decide

theorem Operand.dual_of_joins (joins : kind.joins) :
  (Operand.expression kind left right).dual = .expression kind.dual left.dual right.dual
  := by
  rw [dual, if_pos joins, if_pos joins]

theorem Operand.dual_of_not_joins (leaf : ¬ kind.joins) :
  (Operand.expression kind left right).dual = .expression kind.dual left right
  := by
  rw [dual, if_neg leaf, if_neg leaf]

theorem Operand.height_dual (o : Operand) :
  o.dual.height = o.height
  := by
  induction o with
  | expression kind left right onLeft onRight =>
    by_cases joins : kind.joins
    · rw [dual_of_joins joins, height, height, ExprKind.joins_dual, onLeft, onRight]
    · rw [dual_of_not_joins joins, height, height, ExprKind.joins_dual]
  | _ => rfl

theorem Operand.function_mem_kinds_dual_iff (o : Operand) :
  .function ∈ o.dual.kinds ↔ .function ∈ o.kinds
  := by
  induction o with
  | expression kind left right onLeft onRight =>
    by_cases joins : kind.joins
    · rw [dual_of_joins joins, kinds, kinds, List.mem_cons, List.mem_cons, List.mem_append,
        List.mem_append, ExprKind.dual_eq_function_iff, onLeft, onRight]
    · rw [dual_of_not_joins joins, kinds, kinds, List.mem_cons, List.mem_cons,
        ExprKind.dual_eq_function_iff]
  | _ => rfl

end Dual

/-! ### Stores -/

/-- One value at each path, and a total preorder of all values. -/
structure Store where
  value : (path : String) → Bson
  le : Bson → Bson → Bool
  total : ∀ x y, le x y ∨ le y x
  trans : ∀ x y z, le x y → le y z → le x z

namespace Store

variable (s : Store)

/-- Whether two values are in the same place of the order. -/
def same (x y : Bson) : Bool := s.le x y && s.le y x

/-- Whether a value is in the same place of the order as an item of an array. -/
def isAmong (x : Bson) : Bson → Bool
  | .array items => items.any (s.same x)
  | y => s.same x y

/-- Whether the value at a path compares with an operand. -/
def compares (path : String) (operator : Operator) (operand : Bson) : Bool :=
  match operator with
  | .equal => s.same (s.value path) operand
  | .notEqual => !s.same (s.value path) operand
  | .greater => s.le operand (s.value path) && !s.le (s.value path) operand
  | .greaterOrEqual => s.le operand (s.value path)
  | .less => s.le (s.value path) operand && !s.le operand (s.value path)
  | .lessOrEqual => s.le (s.value path) operand
  | .isIn => s.isAmong (s.value path) operand
  | .notIn => !s.isAmong (s.value path) operand

/-- What is true in a store.  No value of it matches a regular expression. -/
def interpretation : Interpretation := ⟨s.compares, fun _ _ => false⟩

/-- Whether the value at a path is at one of the bounds of a range that is not reversed. -/
def IsAtBound (path : String) (start stop : Bson) : Prop :=
  s.le start stop ∧ (s.same (s.value path) start ∨ s.same (s.value path) stop)

end Store

/-- The operator that is true where another one is not. -/
def Operator.opposite : Operator → Operator
  | .equal => .notEqual
  | .notEqual => .equal
  | .greater => .lessOrEqual
  | .greaterOrEqual => .less
  | .less => .greaterOrEqual
  | .lessOrEqual => .greater
  | .isIn => .notIn
  | .notIn => .isIn

namespace Condition

/-- Two conditions of which at least one is true, and both only in a given case. -/
structure Opposes (I : Interpretation) (case : Prop) (m n : Condition) : Prop where
  covers : m.holds I ∨ n.holds I
  overlaps : m.holds I → n.holds I → case

section Opposes

variable {I : Interpretation} {P Q : Prop} {m n m' n' : Condition}

theorem Opposes.of_not (h : n.holds I = !m.holds I) :
  m.Opposes I P n
  := by
  constructor
  · rw [h]
    cases m.holds I
    · exact .inr rfl
    · exact .inl rfl
  · intro first second
    rw [h, first] at second
    cases second

theorem Opposes.symm (h : m.Opposes I P n) :
  n.Opposes I P m
  := ⟨h.covers.symm, fun second first => h.overlaps first second⟩

theorem Opposes.mono (h : m.Opposes I P n) (imp : P → Q) :
  m.Opposes I Q n
  := ⟨h.covers, fun first second => imp (h.overlaps first second)⟩

/-- Of two conditions that are not both true exactly one is. -/
theorem Opposes.eq_not (h : m.Opposes I P n) (never : ¬ P) :
  n.holds I = !m.holds I
  := by
  rcases h.covers with first | second
  · rw [first, Bool.not_true, Bool.eq_false_iff]
    exact fun second => never (h.overlaps first second)
  · rw [second, eq_comm, Bool.not_eq_true', Bool.eq_false_iff]
    exact fun first => never (h.overlaps first second)

/-- What conditions join with "and", those opposed to them join with "or". -/
theorem Opposes.and_or (onLeft : m.Opposes I P n) (onRight : m'.Opposes I Q n') :
  (Condition.and m m').Opposes I (P ∨ Q) (.or n n')
  := by
  constructor
  · rw [holds, holds, Bool.and_eq_true, Bool.or_eq_true]
    rcases onLeft.covers with first | first
    · rcases onRight.covers with second | second
      · exact .inl ⟨first, second⟩
      · exact .inr (.inr second)
    · exact .inr (.inl first)
  · rw [holds, holds, Bool.and_eq_true, Bool.or_eq_true]
    rintro ⟨first, second⟩ (opposed | opposed)
    · exact .inl (onLeft.overlaps first opposed)
    · exact .inr (onRight.overlaps second opposed)

theorem Opposes.join {kind : ExprKind} (joins : kind.joins) (onLeft : m.Opposes I P n)
    (onRight : m'.Opposes I Q n') :
  (kind.joinConditions m m').Opposes I (P ∨ Q) (kind.dual.joinConditions n n')
  := by
  cases kind with
  | and => exact onLeft.and_or onRight
  | or => exact (onLeft.symm.and_or onRight.symm).symm
  | _ => cases joins

end Opposes

end Condition

section Atoms

variable (s : Store) (path : String) {operand : Bson}

/-- The opposite operator is true where an operator is not. -/
theorem Store.compares_opposite (operator : Operator) (operand : Bson) :
  s.compares path operator.opposite operand = !s.compares path operator operand
  := by
  have total := s.total (s.value path) operand
  cases operator with
  | equal | isIn => rfl
  | notEqual | notIn => exact (Bool.not_not _).symm
  | _ =>
    simp only [Operator.opposite, compares]
    cases below : s.le (s.value path) operand <;> cases above : s.le operand (s.value path)
      <;> simp [below, above] at total ⊢

/-- Without regular expressions, atoms are compared as the store compares them. -/
theorem Store.holds_interpretation (operator : Operator)
    (plain : ∀ pattern, operand ≠ .regex pattern) :
  s.interpretation.holds path operator operand = s.compares path operator operand
  := by
  rw [Interpretation.holds]
  · rfl
  · exact fun pattern _ same => plain pattern same

theorem opposes_atom (operator : Operator) (plain : ∀ pattern, operand ≠ .regex pattern)
    (case : Prop) :
  (Condition.atom path operator operand).Opposes s.interpretation case
    (.atom path operator.opposite operand)
  := by
  apply Condition.Opposes.of_not
  rw [Condition.holds, Condition.holds, s.holds_interpretation path _ plain,
    s.holds_interpretation path _ plain, s.compares_opposite]

/-- A value is in a range or in its dual, and in both only at a bound. -/
theorem opposes_between (start stop : Bson) :
  (Condition.between path start stop).Opposes s.interpretation (s.IsAtBound path start stop)
    (.beyond path start stop)
  := by
  have between : (Condition.between path start stop).holds s.interpretation
      = (s.le start (s.value path) && s.le (s.value path) stop) := rfl
  have beyond : (Condition.beyond path start stop).holds s.interpretation
      = (s.le (s.value path) start || s.le stop (s.value path)) := rfl
  constructor
  · rw [between, beyond, Bool.and_eq_true, Bool.or_eq_true]
    rcases s.total start (s.value path) with low | below
    · rcases s.total (s.value path) stop with high | above
      · exact .inl ⟨low, high⟩
      · exact .inr (.inr above)
    · exact .inr (.inl below)
  · rw [between, beyond, Bool.and_eq_true, Bool.or_eq_true]
    rintro ⟨low, high⟩ (below | above)
    · exact ⟨s.trans _ _ _ low high, .inl (Bool.and_eq_true_iff.2 ⟨below, low⟩)⟩
    · exact ⟨s.trans _ _ _ low high, .inr (Bool.and_eq_true_iff.2 ⟨high, above⟩)⟩

end Atoms

/-! ### Conditions of dual operands -/

/-- The values in an operand, in order. -/
def Operand.values : Operand → List Value
  | .expression _ left right => left.values ++ right.values
  | .field _ => []
  | .literal value => [value]
  | .range r => [r.start, r.stop]
  | .list values => values
  | .call f => f.args

/-- A range, with the operand that names the path that is compared with it. -/
structure RangeLeaf where
  target : Operand
  range : Range

/-- The range that a leaf compares with, if it compares with one. -/
def Operand.rangeOn (target : Operand) : Operand → List RangeLeaf
  | .range r => [⟨target, r⟩]
  | _ => []

/-- The ranges that expressions in an operand compare with, in order. -/
def Operand.rangeLeaves : Operand → List RangeLeaf
  | .expression kind left right =>
    if kind.joins then left.rangeLeaves ++ right.rangeLeaves else left.rangeOn right
  | _ => []

/-- The ranges that a filter compares with, in order. -/
def Filter.rangeLeaves (filter : Filter) : List RangeLeaf := filter.root.toOperand.rangeLeaves

/-- Whether a value of a store is at a bound of one of some ranges. -/
def Store.IsAtBoundOf (s : Store) (c : Compiler) (paths : FieldArena) (leaves : List RangeLeaf) :
    Prop :=
  ∃ leaf ∈ leaves, ∃ path, leaf.target.path? c paths = some path
    ∧ s.IsAtBound path (c.encoder.encode leaf.range.start) (c.encoder.encode leaf.range.stop)

section Operands

variable {c : Compiler} {paths : FieldArena} {kind : ExprKind} {left right : Operand}
  {path : String} {m : Condition}

theorem ofValue_ne_regex {value : Value} (plain : value.type ≠ .pattern) (pattern : Pattern) :
  Bson.ofValue value ≠ .regex pattern
  := by
  intro same
  cases value with
  | pattern => cases plain rfl
  | uint n =>
    rw [Bson.ofValue] at same
    split at same <;> cases same
  | _ => cases same

theorem isAtBoundOf_append_iff {s : Store} {leaves others : List RangeLeaf} :
  s.IsAtBoundOf c paths (leaves ++ others)
    ↔ s.IsAtBoundOf c paths leaves ∨ s.IsAtBoundOf c paths others
  := by
  simp only [Store.IsAtBoundOf, List.mem_append, or_and_right, exists_or]

variable (bson : c.encoder = .bson) (plain : ∀ value ∈ right.values, value.type ≠ .pattern)

include bson plain

/-- Equality and inequality with the same operand are opposed but for the bounds of a range. -/
theorem exists_opposes_equality? {negated : Bool} (found : left.path? c paths = some path)
    (h : Condition.equality? negated c.encoder path right = some m) :
  ∃ n, Condition.equality? (!negated) c.encoder path right = some n
    ∧ ∀ s : Store, m.Opposes s.interpretation (s.IsAtBoundOf c paths (left.rangeOn right)) n
  := by
  cases right with
  | range r =>
    have atBound (s : Store) : s.IsAtBound path (c.encoder.encode r.start) (c.encoder.encode r.stop)
        → s.IsAtBoundOf c paths (left.rangeOn (.range r)) :=
      fun h => ⟨⟨left, r⟩, List.mem_singleton_self _, path, found, h⟩
    cases h
    refine ⟨_, rfl, fun s => ?_⟩
    cases negated with
    | false => exact (opposes_between s path _ _).mono (atBound s)
    | true => exact (opposes_between s path _ _).symm.mono (atBound s)
  | list values =>
    have array (pattern : Pattern) : Bson.array (values.map c.encoder.encode) ≠ .regex pattern :=
      nofun
    cases h
    refine ⟨_, rfl, fun s => ?_⟩
    cases negated <;> exact opposes_atom s path _ array _
  | literal value =>
    have encoded (pattern : Pattern) : c.encoder.encode value ≠ .regex pattern := by
      rw [bson]
      apply ofValue_ne_regex (plain value List.mem_cons_self)
    cases h
    refine ⟨_, rfl, fun s => ?_⟩
    cases negated <;> exact opposes_atom s path _ encoded _
  | _ => cases h

/-- Opposite comparisons with the same operand are opposed. -/
theorem exists_opposes_comparison? {operator : Operator}
    (h : Condition.comparison? c.encoder operator path right = some m) :
  ∃ n, Condition.comparison? c.encoder operator.opposite path right = some n
    ∧ ∀ s : Store, m.Opposes s.interpretation (s.IsAtBoundOf c paths (left.rangeOn right)) n
  := by
  cases right with
  | literal value =>
    have encoded (pattern : Pattern) : c.encoder.encode value ≠ .regex pattern := by
      rw [bson]
      apply ofValue_ne_regex (plain value List.mem_cons_self)
    cases h
    exact ⟨_, rfl, fun s => opposes_atom s path _ encoded _⟩
  | _ => cases h

/-- An expression that joins no others is opposed to the expression of the dual kind. -/
theorem exists_opposes_leaf (leaf : ¬ kind.joins) (uncalled : .function ≠ kind)
    (h : (Operand.expression kind left right).condition? c paths = some m) :
  ∃ n, (Operand.expression kind.dual left right).condition? c paths = some n
    ∧ ∀ s : Store, m.Opposes s.interpretation (s.IsAtBoundOf c paths (left.rangeOn right)) n
  := by
  cases kind with
  | and => cases leaf rfl
  | or => cases leaf rfl
  | function => cases uncalled rfl
  | equal | notEqual =>
    obtain ⟨path, found, h⟩ := Option.bind_eq_some_iff.1 h
    obtain ⟨n, reads, opposes⟩ := exists_opposes_equality? bson plain found h
    exact ⟨n, Option.bind_eq_some_iff.2 ⟨path, found, reads⟩, opposes⟩
  | _ =>
    obtain ⟨path, found, h⟩ := Option.bind_eq_some_iff.1 h
    obtain ⟨n, reads, opposes⟩ := exists_opposes_comparison? bson plain h
    exact ⟨n, Option.bind_eq_some_iff.2 ⟨path, found, reads⟩, opposes⟩

end Operands

/-- An operand without functions and patterns is opposed to its dual but for the bounds of its
ranges. -/
theorem exists_opposes_dual {c : Compiler} {paths : FieldArena} (bson : c.encoder = .bson)
    {o : Operand} (uncalled : .function ∉ o.kinds)
    (plain : ∀ value ∈ o.values, value.type ≠ .pattern) {m : Condition}
    (h : o.condition? c paths = some m) :
  ∃ n, o.dual.condition? c paths = some n
    ∧ ∀ s : Store, m.Opposes s.interpretation (s.IsAtBoundOf c paths o.rangeLeaves) n
  := by
  induction o generalizing m with
  | expression kind left right onLeft onRight =>
    rw [Operand.kinds, List.mem_cons, List.mem_append, not_or, not_or] at uncalled
    obtain ⟨other, leftUncalled, rightUncalled⟩ := uncalled
    obtain ⟨leftPlain, rightPlain⟩ := List.forall_mem_append.1 plain
    by_cases joins : kind.joins
    · rw [condition?_of_joins _ _ _ _ joins] at h
      obtain ⟨first, isFirst, h⟩ := Option.bind_eq_some_iff.1 h
      obtain ⟨second, isSecond, h⟩ := Option.bind_eq_some_iff.1 h
      cases h
      obtain ⟨n, leftReads, leftOpposes⟩ := onLeft leftUncalled leftPlain isFirst
      obtain ⟨n', rightReads, rightOpposes⟩ := onRight rightUncalled rightPlain isSecond
      use kind.dual.joinConditions n n'
      constructor
      · rw [Operand.dual_of_joins joins,
          condition?_of_joins _ _ _ _ (kind.joins_dual.trans joins), leftReads, rightReads]
        rfl
      · intro s
        rw [Operand.rangeLeaves, if_pos joins, isAtBoundOf_append_iff]
        apply (leftOpposes s).join joins (rightOpposes s)
    · rw [Operand.dual_of_not_joins joins, Operand.rangeLeaves, if_neg joins]
      apply exists_opposes_leaf bson rightPlain joins other h
  | _ => cases h

/-! ### Dual filters compiled -/

/-- A filter without functions and patterns that is accepted is accepted as its dual as well, and in
every store the filter, its dual or both are true.  Both are true only if a value of the store is at
a bound of a range of the filter that is not reversed, so without ranges exactly one of the two is
true. -/
theorem truth_compile_dual {c : Compiler} (bson : c.encoder = .bson) {filter : Filter}
    (uncalled : .function ∉ filter.root.toOperand.kinds)
    (plain : ∀ value ∈ filter.root.toOperand.values, value.type ≠ .pattern) {q : Query}
    (h : (c.compile filter).result = .ok q) :
  ∃ r, (c.compile filter.dual).result = .ok r
    ∧ ∀ s : Store, ∃ a b, q.truth? s.interpretation = some a ∧ r.truth? s.interpretation = some b
      ∧ (a ∨ b)
      ∧ (a → b → s.IsAtBoundOf c filter.paths filter.rangeLeaves)
      ∧ (filter.rangeLeaves = [] → b = !a)
  := by
  obtain ⟨fits, m, reads, rfl⟩ := (result_compile_eq_ok_iff c uncalled q).1 h
  obtain ⟨n, dualReads, opposes⟩ := exists_opposes_dual bson uncalled plain reads
  have scalar : c.encoder.IsScalar := by
    rw [bson]
    apply Encoder.isScalar_bson
  use n.toQuery
  constructor
  · have dualUncalled : .function ∉ filter.dual.root.toOperand.kinds :=
      fun called => uncalled (filter.root.toOperand.function_mem_kinds_dual_iff.1 called)
    have sameHeight : filter.dual.height = filter.height := filter.root.toOperand.height_dual
    rw [← sameHeight] at fits
    exact (result_compile_eq_ok_iff c dualUncalled _).2 ⟨fits, n, dualReads, rfl⟩
  · intro s
    refine ⟨m.holds s.interpretation, n.holds s.interpretation,
      truth?_toQuery _ (isPlain_of_condition? scalar reads),
      truth?_toQuery _ (isPlain_of_condition? scalar dualReads), (opposes s).covers,
      (opposes s).overlaps, ?_⟩
    intro unranged
    apply (opposes s).eq_not
    rintro ⟨leaf, listed, -⟩
    rw [← Filter.rangeLeaves, unranged] at listed
    cases listed

/-- A filter with a range on a path that is named as a logical operator.  In a store whose values are
all in the same place of the order, the bounds of the range among them, it is true and so is its
dual. -/
theorem truth_compile_dual_range :
  let f : Filter := ⟨.empty, .or ⟨.equal, .literal (.string "$and"), .range ⟨.int 1, .int 2⟩⟩
    (.and ⟨.greaterThan, .literal (.string "n"), .literal (.uint 3)⟩
      ⟨.notEqual, .literal (.string "n"), .list [.null, .string "x"]⟩)⟩
  let q : Query := .or [.and [.gte "$and" (.int64 1), .lte "$and" (.int64 2)],
    .and [.gt "n" (.int64 3), .notIn "n" [.null, .string "x"]]]
  let r : Query := .and [.or [.lte "$and" (.int64 1), .gte "$and" (.int64 2)],
    .or [.lte "n" (.int64 3), .isIn "n" [.null, .string "x"]]]
  let s : Store := ⟨fun _ => .null, fun _ _ => true, fun _ _ => .inl rfl, fun _ _ _ _ _ => rfl⟩
  Compiler.default.encoder = .bson ∧ .function ∉ f.root.toOperand.kinds
    ∧ (∀ value ∈ f.root.toOperand.values, value.type ≠ .pattern)
    ∧ (Compiler.default.compile f).result = .ok q
    ∧ (Compiler.default.compile f.dual).result = .ok r
    ∧ q.truth? s.interpretation = some true ∧ r.truth? s.interpretation = some true
    ∧ s.IsAtBoundOf .default f.paths f.rangeLeaves
  := by
  intro f q r s
  have uncalled : .function ∉ f.root.toOperand.kinds := by decide
  have plain : ∀ value ∈ f.root.toOperand.values, value.type ≠ .pattern := by decide
  have made : (Compiler.default.compile f).result = .ok q := rfl
  have dualMade : (Compiler.default.compile f.dual).result = .ok r := rfl
  have first : q.truth? s.interpretation = some true := rfl
  have second : r.truth? s.interpretation = some true := rfl
  obtain ⟨r', dualMade', opposed⟩ := truth_compile_dual rfl uncalled plain made
  cases dualMade.symm.trans dualMade'
  obtain ⟨a, b, isFirst, isSecond, -, both, -⟩ := opposed s
  cases first.symm.trans isFirst
  cases second.symm.trans isSecond
  exact ⟨rfl, uncalled, plain, made, dualMade, first, second, both rfl rfl⟩

end FilterQuery
