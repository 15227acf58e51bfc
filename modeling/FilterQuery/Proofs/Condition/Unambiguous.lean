import FilterQuery.Proofs.Condition.Truth

/-!
# Queries are unambiguous

All queries are documents with one member, and what a member means depends on its value: an array is
under a logical operator, a document holds the operator of an atom, and a scalar is what a path is
equal to.  So the names of paths do not matter, and the query of a plain condition determines the
condition.  The main statement is that two filters have the same query exactly when they have the
same normal form.
-/

namespace FilterQuery

variable {m n left right : Condition} {path key : String} {operator other : Operator}
  {operand value : Bson}

theorem Operator.name?_injective (h : operator.name? = other.name?) :
  operator = other
  := by
  revert h
  cases operator <;> cases other <;> decide

/-- An atom has a document or a scalar under its path. -/
theorem document_toQuery_atom (plain : (Condition.atom path operator operand).IsPlain) :
  (operator = .equal ∧ operand.isScalar
      ∧ (Condition.atom path operator operand).toQuery.document = [(path, operand)])
    ∨ ∃ name, operator.name? = some name
      ∧ (Condition.atom path operator operand).toQuery.document
        = [(path, .document [(name, operand)])]
  := by
  cases found : operator.name? with
  | none =>
    left
    cases operator <;> cases found
    exact ⟨rfl, plain, rfl⟩
  | some name =>
    right
    use name, rfl
    simp [Condition.toQuery, found, Query.operator]

/-- The query of an atom has no array as the value of its member. -/
theorem document_atom_ne_array (plain : (Condition.atom path operator operand).IsPlain)
    (items : List Bson) :
  (Condition.atom path operator operand).toQuery.document ≠ [(key, .array items)]
  := by
  intro h
  rcases document_toQuery_atom plain with ⟨-, scalar, same⟩ | ⟨name, -, same⟩
  · rw [same] at h
    simp only [List.cons.injEq, Prod.mk.injEq, and_true] at h
    rw [h.2] at scalar
    cases scalar
  · rw [same] at h
    simp at h

/-- Atoms with the same query are the same. -/
theorem atom_eq_of_document (plain : (Condition.atom path operator operand).IsPlain)
    (plain' : (Condition.atom key other value).IsPlain)
    (h : (Condition.atom path operator operand).toQuery.document
      = (Condition.atom key other value).toQuery.document) :
  Condition.atom path operator operand = .atom key other value
  := by
  rcases document_toQuery_atom plain with ⟨rfl, scalar, same⟩ | ⟨name, named, same⟩ <;>
    rcases document_toQuery_atom plain' with ⟨rfl, scalar', same'⟩ | ⟨name', named', same'⟩ <;>
    rw [same, same'] at h <;>
    simp only [List.cons.injEq, Prod.mk.injEq, and_true] at h
  · rw [h.1, h.2]
  · rw [h.2] at scalar
    cases scalar
  · rw [← h.2] at scalar'
    cases scalar'
  · simp only [Bson.document.injEq, List.cons.injEq, Prod.mk.injEq, and_true] at h
    obtain ⟨rfl, rfl, rfl⟩ := h
    rw [Operator.name?_injective (named.trans named'.symm)]

/-- Plain conditions with the same query are the same. -/
theorem eq_of_toQuery (plain : m.IsPlain) (plain' : n.IsPlain)
    (h : m.toQuery.document = n.toQuery.document) :
  m = n
  := by
  induction m generalizing n with
  | atom path operator operand =>
    cases n with
    | atom key other value => apply atom_eq_of_document plain plain' h
    | and left right => cases document_atom_ne_array plain _ h
    | or left right => cases document_atom_ne_array plain _ h
  | and left right leftEq rightEq =>
    cases n with
    | atom key other value => cases document_atom_ne_array plain' _ h.symm
    | and left' right' =>
      simp only [Condition.toQuery, Query.and, Query.combine, List.map, List.cons.injEq,
        Prod.mk.injEq, Bson.array.injEq, Bson.document.injEq, true_and, and_true] at h
      rw [leftEq plain.1 plain'.1 h.1, rightEq plain.2 plain'.2 h.2]
    | or left' right' => simp [Condition.toQuery, Query.and, Query.or, Query.combine] at h
  | or left right leftEq rightEq =>
    cases n with
    | atom key other value => cases document_atom_ne_array plain' _ h.symm
    | and left' right' => simp [Condition.toQuery, Query.and, Query.or, Query.combine] at h
    | or left' right' =>
      simp only [Condition.toQuery, Query.or, Query.combine, List.map, List.cons.injEq,
        Prod.mk.injEq, Bson.array.injEq, Bson.document.injEq, true_and, and_true] at h
      rw [leftEq plain.1 plain'.1 h.1, rightEq plain.2 plain'.2 h.2]

/-- Two filters that one compiler accepts have the same query exactly when they have the same normal
form. -/
theorem document_eq_iff_condition_eq (settings : Settings) (f g : Filter) (q r : Query)
    (accepts : ((Compiler.ofSettings settings).compile f).result = .ok q)
    (accepts' : ((Compiler.ofSettings settings).compile g).result = .ok r) :
  ∃ m n, f.condition? (.ofSettings settings) = some m
    ∧ g.condition? (.ofSettings settings) = some n
    ∧ (q.document = r.document ↔ m = n)
  := by
  obtain ⟨m, reads, rfl⟩ := condition_of_compile rfl accepts
  obtain ⟨n, reads', rfl⟩ := condition_of_compile rfl accepts'
  use m, n, reads, reads'
  constructor
  · intro h
    apply eq_of_toQuery _ _ h
    · apply isPlain_of_condition? Encoder.isScalar_bson reads
    · apply isPlain_of_condition? Encoder.isScalar_bson reads'
  · intro h
    rw [h]

/-- A path named as a logical operator and the operator itself. -/
theorem document_ne_of_operator_path :
  ∃ q r, ((Compiler.ofSettings .default).compile ⟨.empty,
      ⟨.equal, .literal (.string "$and"), .range ⟨.int 1, .int 2⟩⟩⟩).result = .ok q
    ∧ ((Compiler.ofSettings .default).compile ⟨.empty,
      ⟨.equal, .literal (.string "$and"), .list [.int 1, .int 2]⟩⟩).result = .ok r
    ∧ ∃ m n, Filter.condition? (.ofSettings .default) ⟨.empty,
        ⟨.equal, .literal (.string "$and"), .range ⟨.int 1, .int 2⟩⟩⟩ = some m
      ∧ Filter.condition? (.ofSettings .default) ⟨.empty,
        ⟨.equal, .literal (.string "$and"), .list [.int 1, .int 2]⟩⟩ = some n
      ∧ (q.document = r.document ↔ m = n)
  := ⟨_, _, rfl, rfl, document_eq_iff_condition_eq _ _ _ _ _ rfl rfl⟩

end FilterQuery
