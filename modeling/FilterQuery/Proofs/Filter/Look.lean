import FilterQuery.Proofs.Filter.Kinds
import Mathlib.Logic.Function.Iterate

/-!
# The look at the kinds

The nodes in sight of the look at the kinds are in an order: a node is before those in its operands,
and those in its right operand are before those in its left one.  Of the unknown kinds in sight the
first one is reported, and nothing else is done to the text.  The look is a loop over a stack of
nodes, and it ends after one step for each node in sight and one more.
-/

namespace FilterQuery

/-- A name is unknown, and reported as it is, if it is the name of no kind in whatever case. -/
theorem ExprKind.ofName_eq_error_iff {name : String} {fault : UnknownKind} :
  ExprKind.ofName name = .error fault
    ↔ fault = ⟨name⟩ ∧ ∀ kind : ExprKind, sameIgnoringCase kind.name name = false
  := by
  have unknown : (ExprKind.all.find? fun kind => sameIgnoringCase kind.name name) = none
      ↔ ∀ kind : ExprKind, sameIgnoringCase kind.name name = false := by
    simp [ExprKind.mem_all]
  rw [ExprKind.ofName, ← unknown]
  cases ExprKind.all.find? fun kind => sameIgnoringCase kind.name name with
  | some kind => simp
  | none => simp [eq_comm]

namespace Json

/-- The nodes in sight from a node, in the order in which they are looked at. -/
def nodesInSight (node : Json) : List Json :=
  let right :=
    match h : node.nestedNode? "right" with
    | some inner =>
      have := sizeOf_nestedNode?_lt h
      nodesInSight inner
    | none => []
  let left :=
    match h : node.nestedNode? "left" with
    | some inner =>
      have := sizeOf_nestedNode?_lt h
      nodesInSight inner
    | none => []
  node :: (right ++ left)
termination_by sizeOf node

/-- The kind of a node is a string that is the name of no kind, in whatever case. -/
def HasUnknownName (node : Json) (name : String) : Prop :=
  node.get? "kind" = some (.string name)
    ∧ ∀ kind : ExprKind, sameIgnoringCase kind.name name = false

/-- A name is that of the first node in a list whose kind is unknown. -/
def IsFirstUnknown (nodes : List Json) (name : String) : Prop :=
  ∃ before node after, nodes = before ++ node :: after ∧ node.HasUnknownName name
    ∧ ∀ earlier ∈ before, ∀ other, ¬ earlier.HasUnknownName other

section Order

variable {node inner : Json} {name side : String} {nodes : List Json}

theorem nodesInSight_eq (node : Json) :
  node.nodesInSight
    = node :: ((node.nestedNode? "right").toList.flatMap nodesInSight
      ++ (node.nestedNode? "left").toList.flatMap nodesInSight)
  := by
  rw [nodesInSight]
  congr 2
  · split
    · next inner nested => simp [nested]
    · next none => simp [none]
  · split
    · next inner nested => simp [nested]
    · next none => simp [none]

/-- In sight from a node are the node and what is in sight from the expressions in its operands. -/
theorem mem_nodesInSight {top : Json} :
  node ∈ top.nodesInSight
    ↔ node = top ∨ ∃ side inner, (side = "left" ∨ side = "right")
      ∧ top.nestedNode? side = some inner ∧ node ∈ inner.nodesInSight
  := by
  rw [nodesInSight_eq, List.mem_cons, List.mem_append]
  simp only [List.mem_flatMap, Option.mem_toList]
  constructor
  · rintro (same | ⟨inner, nested, inSight⟩ | ⟨inner, nested, inSight⟩)
    · exact .inl same
    · exact .inr ⟨_, inner, .inr rfl, nested, inSight⟩
    · exact .inr ⟨_, inner, .inl rfl, nested, inSight⟩
  · rintro (same | ⟨_, inner, rfl | rfl, nested, inSight⟩)
    · exact .inl same
    · exact .inr (.inr ⟨inner, nested, inSight⟩)
    · exact .inr (.inl ⟨inner, nested, inSight⟩)

/-- What is in sight from a node in sight is in sight. -/
theorem mem_nodesInSight_trans {top : Json} (above : node ∈ top.nodesInSight)
    (below : inner ∈ node.nodesInSight) :
  inner ∈ top.nodesInSight
  := by
  rcases mem_nodesInSight.1 above with rfl | ⟨side, next, aside, nested, above⟩
  · exact below
  · have := sizeOf_nestedNode?_lt nested
    exact mem_nodesInSight.2 (.inr ⟨side, next, aside, nested, mem_nodesInSight_trans above below⟩)
termination_by sizeOf top

/-- The nodes in sight are those that are reached through objects. -/
theorem mem_nodesInSight_iff_reaches {top : Json} :
  node ∈ top.nodesInSight ↔ Reaches members top node
  := by
  constructor
  · intro h
    rcases mem_nodesInSight.1 h with rfl | ⟨side, next, aside, nested, below⟩
    · exact .here
    · have := sizeOf_nestedNode?_lt nested
      exact (Reaches.of_nestedNode? aside nested).trans (mem_nodesInSight_iff_reaches.1 below)
  · intro h
    induction h with
    | here => exact mem_nodesInSight.2 (.inl rfl)
    | nested _ aside found isExpression above =>
      have nested : nestedNode? _ _ = some _ := Option.bind_eq_some_iff.2 ⟨_, found, isExpression⟩
      apply mem_nodesInSight_trans above
      exact mem_nodesInSight.2 (.inr ⟨_, _, aside, nested, mem_nodesInSight.2 (.inl rfl)⟩)
termination_by sizeOf top

/-! ### The first unknown kind -/

theorem unknownKindHere?_eq_some_iff {fault : UnknownKind} :
  node.unknownKindHere? = some fault ↔ node.HasUnknownName fault.name
  := by
  have here : node.unknownKindHere? = some fault
      ↔ ∃ name, node.get? "kind" = some (.string name) ∧ ExprKind.ofName name = .error fault := by
    rw [unknownKindHere?]
    split
    · next name isName => cases read : ExprKind.ofName name <;> simp [isName, read]
    · next noName =>
      simp only [reduceCtorEq, false_iff, not_exists]
      rintro name ⟨isName, -⟩
      exact noName name isName
  rw [here]
  simp only [ExprKind.ofName_eq_error_iff]
  constructor
  · rintro ⟨name, isName, rfl, unknown⟩
    exact ⟨isName, unknown⟩
  · rintro ⟨isName, unknown⟩
    exact ⟨_, isName, rfl, unknown⟩

theorem unknownKindHere?_eq_none_iff :
  node.unknownKindHere? = none ↔ ∀ name, ¬ node.HasUnknownName name
  := by
  rw [Option.eq_none_iff_forall_ne_some]
  constructor
  · intro h name unknown
    apply h ⟨name⟩ (unknownKindHere?_eq_some_iff.2 unknown)
  · intro h fault unknown
    apply h fault.name (unknownKindHere?_eq_some_iff.1 unknown)

/-- The look finds the first unknown kind of the nodes in sight. -/
theorem unknownKind?_eq_findSome? (node : Json) :
  node.unknownKind? = node.nodesInSight.findSome? unknownKindHere?
  := by
  have below (side : String) :
      (node.nestedNode? side).bind unknownKind?
        = ((node.nestedNode? side).toList.flatMap nodesInSight).findSome? unknownKindHere? := by
    cases nested : node.nestedNode? side with
    | none => rfl
    | some inner =>
      have := sizeOf_nestedNode?_lt nested
      simpa using unknownKind?_eq_findSome? inner
  rw [unknownKind?_eq, nodesInSight_eq, List.findSome?_cons, below, below, List.findSome?_append]
  cases node.unknownKindHere? <;> rfl
termination_by sizeOf node

theorem findSome?_unknownKindHere?_eq_some_iff :
  nodes.findSome? unknownKindHere? = some ⟨name⟩ ↔ IsFirstUnknown nodes name
  := by
  simp only [List.findSome?_eq_some_iff, unknownKindHere?_eq_some_iff,
    unknownKindHere?_eq_none_iff, IsFirstUnknown]

end Order

/-! ### The loop -/

/-- A state of the look: the nodes that are still to be looked at, the next one first, or what the
look has found. -/
inductive Look where
  | pending (nodes : List Json)
  | ended (fault : Option UnknownKind)

/-- One step of the look.  The expressions in the operands of a node that has a known kind, or none,
come before all other nodes. -/
def Look.step : Look → Look
  | .pending [] => .ended none
  | .pending (node :: rest) =>
    match node.unknownKindHere? with
    | some fault => .ended (some fault)
    | none =>
      .pending ((node.nestedNode? "right").toList ++ (node.nestedNode? "left").toList ++ rest)
  | .ended fault => .ended fault

theorem Look.iterate_step_ended (n : Nat) (fault : Option UnknownKind) :
  step^[n] (.ended fault) = .ended fault
  := Function.iterate_fixed rfl n

/-- The look ends with the first unknown kind of the nodes in sight from those on the stack. -/
theorem Look.iterate_step_pending {n : Nat} {nodes : List Json}
    (enough : (nodes.flatMap nodesInSight).length < n) :
  step^[n] (.pending nodes) = .ended ((nodes.flatMap nodesInSight).findSome? unknownKindHere?)
  := by
  -- Each step takes one node out of those in sight from the stack.
  induction n generalizing nodes with
  | zero => cases enough
  | succ n ih =>
    rw [Function.iterate_succ_apply]
    cases nodes with
    | nil => apply iterate_step_ended
    | cons node rest =>
      rw [List.flatMap_cons, nodesInSight_eq, List.cons_append] at enough ⊢
      rw [List.findSome?_cons, step]
      cases here : node.unknownKindHere? with
      | some fault => apply iterate_step_ended
      | none =>
        simp only [List.length_cons, ← List.flatMap_append] at enough ⊢
        apply ih (Nat.lt_of_succ_lt_succ enough)

end Json

namespace Filter

/-- The nodes in sight in the JSON value of a filter, in order. -/
def nodesInSight (j : Json) : List Json := (j.get? "root").toList.flatMap Json.nodesInSight

variable {j : Json} {s : String}

theorem unknownKind?_eq_findSome? (j : Json) :
  unknownKind? j = (nodesInSight j).findSome? Json.unknownKindHere?
  := by
  rw [unknownKind?, nodesInSight]
  cases j.get? "root" with
  | none => rfl
  | some root => simpa using Json.unknownKind?_eq_findSome? root

/-- The look at the kinds in the value of a text goes through the nodes that are reached from the
root through objects, in order, and ends after no more steps than there are of them and one.  The
text is rejected for an unknown kind exactly when the kind of one of these nodes is unknown, with
the name that the first of them has, and there is one event, with that name; whether the value can
be decoded does not matter.  If no kind of these nodes is unknown there are no events, and the value
is decoded or malformed. -/
theorem read_of_nodesInSight (text : Json.read? s = some j) :
  (∀ node, node ∈ nodesInSight j
      ↔ ∃ root, j.get? "root" = some root ∧ Json.Reaches Json.members root node)
    ∧ (∀ n, (nodesInSight j).length < n →
      Json.Look.step^[n] (.pending (j.get? "root").toList) = .ended (unknownKind? j))
    ∧ (∀ name, (read s).result = .error (.unsupportedExpression name)
        ↔ Json.IsFirstUnknown (nodesInSight j) name)
    ∧ (∀ name, Json.IsFirstUnknown (nodesInSight j) name →
        (read s).events = [.unsupportedExpression name])
    ∧ ((∀ node ∈ nodesInSight j, ∀ name, ¬ node.HasUnknownName name) →
        (read s).events = []
          ∧ (read s).result
            = match ofJson? j with
              | some f => .ok f
              | none => .error (.malformed .notFilter))
  := by
  have read_eq : read s = ofJson j := by rw [read, text]
  have first (name : String) :
      unknownKind? j = some ⟨name⟩ ↔ Json.IsFirstUnknown (nodesInSight j) name := by
    rw [unknownKind?_eq_findSome?, Json.findSome?_unknownKindHere?_eq_some_iff]
  refine ⟨?nodes, ?loop, ?rejected, ?warned, ?passed⟩
  case nodes =>
    intro node
    simp only [nodesInSight, List.mem_flatMap, Option.mem_toList,
      Json.mem_nodesInSight_iff_reaches]
  case loop =>
    intro n enough
    rw [Json.Look.iterate_step_pending enough, unknownKind?_eq_findSome?, nodesInSight]
  case rejected =>
    intro name
    rw [← first, read_eq, ofJson]
    cases unknownKind? j with
    | some fault =>
      obtain ⟨other⟩ := fault
      change Except.error (FilterError.unsupportedExpression other) = _ ↔ _
      simp
    | none => cases ofJson? j <;> simp
  case warned =>
    intro name isFirst
    rw [read_eq, ofJson, (first name).2 isFirst]
    rfl
  case passed =>
    intro known
    have none : unknownKind? j = none := by
      rw [unknownKind?_eq_findSome?, List.findSome?_eq_none_iff]
      intro node inSight
      apply Json.unknownKindHere?_eq_none_iff.2 (known node inSight)
    rw [read_eq, ofJson, none]
    cases ofJson? j with
    | some f => exact ⟨rfl, rfl⟩
    | none => exact ⟨rfl, rfl⟩

/-- A conjunction of leaves. -/
def conjunctionObject (left right : String) : Json :=
  .object [
    ("kind", .string "AND"),
    ("left", .object [("Expression", leafObject left)]),
    ("right", .object [("Expression", leafObject right)])]

/-- A conjunction that is no filter, as it comes without fields. -/
def fieldless (left right : String) : Json := .object [("root", conjunctionObject left right)]

theorem read?_write_fieldless (left right : String) :
  Json.read? (fieldless left right).write = some (fieldless left right)
  := by
  have leaf (kind : String) : (Json.object [("Expression", leafObject kind)]).IsReadable :=
    Json.isReadable_singleton _ (isReadable_leafObject kind)
  have readable : (fieldless left right).IsReadable := by
    apply Json.isReadable_singleton
    apply Json.IsReadable.object (by simp)
    simp only [List.forall_mem_cons]
    exact ⟨.string _, leaf left, leaf right, List.forall_mem_nil _⟩
  rw [Json.read?_write readable, if_pos]
  change 6 ≤ 127
  decide

theorem nodesInSight_fieldless (left right : String) :
  nodesInSight (fieldless left right)
    = [conjunctionObject left right, leafObject right, leafObject left]
  := by
  have leaf (kind : String) : (leafObject kind).nodesInSight = [leafObject kind] := by
    rw [Json.nodesInSight_eq]
    rfl
  change (conjunctionObject left right).nodesInSight ++ [] = _
  rw [Json.nodesInSight_eq, List.append_nil]
  change _ :: (((leafObject right).nodesInSight ++ []) ++ ((leafObject left).nodesInSight ++ [])) = _
  rw [leaf, leaf]
  rfl

/-- Of two unknown kinds the one on the right is reported, with its spelling, and the missing fields
are not. -/
theorem read_of_nodesInSight_fieldless :
  (read (fieldless "Between" "nEAR").write).result = .error (.unsupportedExpression "nEAR")
    ∧ (read (fieldless "Between" "nEAR").write).events = [.unsupportedExpression "nEAR"]
  := by
  obtain ⟨-, -, rejected, warned, -⟩ := read_of_nodesInSight (read?_write_fieldless "Between" "nEAR")
  have first : Json.IsFirstUnknown (nodesInSight (fieldless "Between" "nEAR")) "nEAR" := by
    rw [nodesInSight_fieldless]
    refine ⟨[_], leafObject "nEAR", [leafObject "Between"], rfl, ⟨rfl, ?_⟩, ?_⟩
    · intro kind
      cases kind <;> decide
    · rintro _ (_ | ⟨_, ⟨⟩⟩) _ ⟨⟨⟩, unknown⟩
      cases unknown .and
  exact ⟨(rejected _).2 first, warned _ first⟩

end Filter

end FilterQuery
