import FilterQuery.Proofs.Filter.RoundTrip

/-!
# Unknown kinds in filters

Before a filter is decoded, its nodes are looked at for unknown kinds.  A node of the tree is below
another if it is the expression in one of its operands; where the operands of a node are found is a
`View` of records.  The decoder finds them in objects and in arrays, the look in objects only, so
what is in sight of the look is decoded as an expression if the filter is decoded.  The main
statements are that the look rejects nothing that can be decoded, and that a text with an unknown
kind is rejected with the name of one exactly when one is in sight.
-/

namespace FilterQuery

namespace Json

/-- A way to find the fields of a record. -/
abbrev View := (fields : List String) → (name : String) → Json → Option Json

/-- The fields of records that are objects. -/
def members : View := fun _ name => get? name

variable {view : View} {top node inner j : Json} {fault : UnknownKind}

/-- A node of the tree under another, the expressions in operands being below their nodes. -/
inductive Reaches (view : View) (top : Json) : Json → Prop
  | here : Reaches view top top
  | nested {node operand inner : Json} {side : String} (above : Reaches view top node)
      (aside : side = "left" ∨ side = "right")
      (found : view Expression.fields side node = some operand)
      (isExpression : operand.get? "Expression" = some inner) : Reaches view top inner

/-- The name of the kind of a node in some view, if it is none of a kind. -/
def unknownKindOf? (view : View) (node : Json) : Option UnknownKind :=
  match view Expression.fields "kind" node with
  | some (.string name) =>
    match ExprKind.ofName name with
    | .error fault => some fault
    | .ok _ => none
  | _ => none

/-- A node under another, or that itself, has an unknown kind. -/
def HasUnknownKind (view : View) (top : Json) (fault : UnknownKind) : Prop :=
  ∃ node, Reaches view top node ∧ unknownKindOf? view node = some fault

theorem Reaches.trans (above : Reaches view top node) (below : Reaches view node inner) :
  Reaches view top inner
  := by
  induction below with
  | here => exact above
  | nested _ aside found isExpression above => exact .nested above aside found isExpression

theorem Reaches.of_nestedNode? {side : String} (aside : side = "left" ∨ side = "right")
    (h : top.nestedNode? side = some inner) :
  Reaches members top inner
  := by
  obtain ⟨operand, found, isExpression⟩ := Option.bind_eq_some_iff.1 h
  exact .nested .here aside found isExpression

/-! ### The look at the kinds -/

/-- What the look finds is an unknown kind in sight. -/
theorem hasUnknownKind_of_unknownKind? {top : Json} {fault : UnknownKind}
    (h : top.unknownKind? = some fault) :
  HasUnknownKind members top fault
  := by
  rw [unknownKind?_eq] at h
  have below {side : String} (aside : side = "left" ∨ side = "right")
      (h : (top.nestedNode? side).bind unknownKind? = some fault) :
      HasUnknownKind members top fault := by
    obtain ⟨inner, isNested, found⟩ := Option.bind_eq_some_iff.1 h
    have := sizeOf_nestedNode?_lt isNested
    obtain ⟨node, reached, unknown⟩ := hasUnknownKind_of_unknownKind? found
    exact ⟨node, (Reaches.of_nestedNode? aside isNested).trans reached, unknown⟩
  rcases Option.or_eq_some_iff.1 h with here | ⟨-, h⟩
  · exact ⟨top, .here, here⟩
  · rcases Option.or_eq_some_iff.1 h with right | ⟨-, left⟩
    · apply below (.inr rfl) right
    · apply below (.inl rfl) left
termination_by sizeOf top

/-- The look goes on to all nodes in sight. -/
theorem unknownKind?_eq_none_of_reaches (h : top.unknownKind? = none)
    (reached : Reaches members top node) :
  node.unknownKind? = none
  := by
  induction reached with
  | here => exact h
  | nested _ aside found isExpression above =>
    rw [unknownKind?_eq, Option.or_eq_none_iff, Option.or_eq_none_iff] at above
    have isNested : nestedNode? _ _ = some _ := Option.bind_eq_some_iff.2 ⟨_, found, isExpression⟩
    rcases aside with rfl | rfl
    · simpa [isNested] using above.2.2
    · simpa [isNested] using above.2.1

/-- The look finds an unknown kind exactly when one is in sight. -/
theorem unknownKind?_eq_none_iff :
  top.unknownKind? = none ↔ ∀ fault, ¬ HasUnknownKind members top fault
  := by
  constructor
  · rintro h fault ⟨node, reached, unknown⟩
    have none := unknownKind?_eq_none_of_reaches h reached
    rw [unknownKind?_eq, Option.or_eq_none_iff] at none
    cases none.1.symm.trans unknown
  · intro h
    cases found : top.unknownKind? with
    | none => rfl
    | some fault => cases h fault (hasUnknownKind_of_unknownKind? found)

/-! ### What is in sight -/

/-- A member of an object is a field of it as a record. -/
theorem field?_of_members {fields : List String} {name : String}
    (h : members fields name node = some j) :
  field? fields name node = some j
  := by
  cases node with
  | object => exact h
  | _ => cases h

theorem Reaches.of_members (h : Reaches members top node) :
  Reaches field? top node
  := by
  induction h with
  | here => exact .here
  | nested _ aside found isExpression above =>
    exact .nested above aside (field?_of_members found) isExpression

theorem HasUnknownKind.of_members (h : HasUnknownKind members top fault) :
  HasUnknownKind field? top fault
  := by
  obtain ⟨node, reached, unknown⟩ := h
  use node, reached.of_members
  rw [unknownKindOf?] at unknown ⊢
  cases found : members Expression.fields "kind" node with
  | none => simp [found] at unknown
  | some kind =>
    rw [found] at unknown
    rw [field?_of_members found]
    exact unknown

/-- A variant with a payload is an object of one member. -/
theorem eq_object_of_variant? {name : String} {payload : Json}
    (h : j.variant? = some (name, some payload)) :
  j = .object [(name, payload)]
  := by
  unfold variant? at h
  split at h
  · cases h
  · cases h
    rfl
  · cases h

end Json

/-! ### Decoded expressions -/

section Decoded

variable {j top node inner : Json} {e : Expression} {o : Operand}

/-- The operand of the variant of expressions is the expression of the payload. -/
theorem Operand.ofJson?_payload (payload : Json) :
  Operand.ofJson? (.object [("Expression", payload)])
    = (Expression.ofJson? payload).map Expression.toOperand
  := by
  rw [Operand.ofJson?, Expression.ofJson?]
  simp only [Json.variant?, if_pos]
  split
  · next left right hl hr =>
    simp [hl, hr, Option.map_bind, Function.comp_def, Expression.toOperand]
  · next missing =>
    -- Without one of the operands neither side is decoded.
    cases hl : payload.field? Expression.fields "left" with
    | none => simp
    | some left =>
      cases hr : payload.field? Expression.fields "right" with
      | none => simp
      | some right => cases missing left right hl hr

/-- An operand is decoded from an object of one member. -/
theorem Operand.exists_of_ofJson? (h : Operand.ofJson? j = some o) :
  ∃ name payload, j = .object [(name, payload)]
  := by
  rw [Operand.ofJson?] at h
  split at h
  · next name payload isVariant => exact ⟨name, payload, Json.eq_object_of_variant? isVariant⟩
  · cases h

/-- The expression in a decoded operand is decoded. -/
theorem Operand.exists_of_get? (h : Operand.ofJson? j = some o)
    (isExpression : j.get? "Expression" = some inner) :
  ∃ e, Expression.ofJson? inner = some e
  := by
  obtain ⟨name, payload, rfl⟩ := Operand.exists_of_ofJson? h
  rw [Json.get?, Json.lookup] at isExpression
  split at isExpression
  · next same =>
    cases isExpression
    rw [same, Operand.ofJson?_payload] at h
    obtain ⟨e, decoded, -⟩ := Option.map_eq_some_iff.1 h
    exact ⟨e, decoded⟩
  · cases isExpression

/-- A decoded expression has a kind with a known name, and operands that are decoded. -/
theorem Expression.ofJson?_eq_some_iff :
  Expression.ofJson? node = some e
    ↔ (∃ name, node.field? Expression.fields "kind" = some (.string name)
        ∧ ExprKind.ofName name = .ok e.kind)
      ∧ (∃ operand, node.field? Expression.fields "left" = some operand
        ∧ Operand.ofJson? operand = some e.left)
      ∧ ∃ operand, node.field? Expression.fields "right" = some operand
        ∧ Operand.ofJson? operand = some e.right
  := by
  simp only [Expression.ofJson?, Option.bind_eq_bind, Option.bind_eq_some_iff]
  constructor
  · rintro ⟨kindJson, hk, kind, isKind, leftJson, hl, left, isLeft, rightJson, hr, right, isRight,
      same⟩
    cases same
    obtain ⟨name, isName, known⟩ := Option.bind_eq_some_iff.1 isKind
    refine ⟨⟨name, ?_, ?_⟩, ⟨leftJson, hl, isLeft⟩, rightJson, hr, isRight⟩
    · cases kindJson <;> cases isName
      exact hk
    · cases read : ExprKind.ofName name <;> rw [read] at known <;> cases known
      rfl
  · rintro ⟨⟨name, hk, known⟩, ⟨leftJson, hl, isLeft⟩, rightJson, hr, isRight⟩
    have isKind : ExprKind.ofJson? (.string name) = some e.kind := by
      simp [ExprKind.ofJson?, Json.string?, known, Except.toOption]
    exact ⟨_, hk, _, isKind, _, hl, _, isLeft, _, hr, _, isRight, rfl⟩

/-- Both sides of a decoded expression are decoded. -/
theorem Expression.exists_operand {side : String} {operand : Json}
    (h : Expression.ofJson? node = some e) (aside : side = "left" ∨ side = "right")
    (found : node.field? Expression.fields side = some operand) :
  ∃ o, Operand.ofJson? operand = some o
  := by
  obtain ⟨-, ⟨left, isLeft, leftDecoded⟩, right, isRight, rightDecoded⟩ :=
    Expression.ofJson?_eq_some_iff.1 h
  rcases aside with rfl | rfl
  · cases isLeft.symm.trans found
    exact ⟨_, leftDecoded⟩
  · cases isRight.symm.trans found
    exact ⟨_, rightDecoded⟩

/-- The kind of a decoded expression is known. -/
theorem Expression.unknownKindOf?_eq_none (h : Expression.ofJson? node = some e) :
  Json.unknownKindOf? Json.field? node = none
  := by
  obtain ⟨⟨name, isName, known⟩, -⟩ := Expression.ofJson?_eq_some_iff.1 h
  rw [Json.unknownKindOf?, isName]
  simp only [known]

/-- The nodes under a decoded expression are decoded. -/
theorem Expression.exists_of_reaches (h : Expression.ofJson? top = some e)
    (reached : Json.Reaches Json.field? top node) :
  ∃ e, Expression.ofJson? node = some e
  := by
  induction reached with
  | here => exact ⟨e, h⟩
  | nested _ aside found isExpression above =>
    obtain ⟨e, decoded⟩ := above
    obtain ⟨o, decoded⟩ := Expression.exists_operand decoded aside found
    apply Operand.exists_of_get? decoded isExpression

/-- No kinds under a decoded expression are unknown. -/
theorem Expression.not_hasUnknownKind (h : Expression.ofJson? top = some e) (fault : UnknownKind) :
  ¬ Json.HasUnknownKind Json.field? top fault
  := by
  rintro ⟨node, reached, unknown⟩
  obtain ⟨e, decoded⟩ := Expression.exists_of_reaches h reached
  cases (Expression.unknownKindOf?_eq_none decoded).symm.trans unknown

end Decoded

/-! ### Filters -/

namespace Filter

variable {j : Json} {f : Filter} {fault : UnknownKind} {s : String}

/-- An expression of a filter has an unknown kind, where the fields of records are found in a given
view. -/
def HasUnknownKind (view : Json.View) (j : Json) (fault : UnknownKind) : Prop :=
  ∃ root, view fields "root" j = some root ∧ Json.HasUnknownKind view root fault

/-- What is in sight is there. -/
theorem HasUnknownKind.of_members (h : HasUnknownKind Json.members j fault) :
  HasUnknownKind Json.field? j fault
  := by
  obtain ⟨root, found, unknown⟩ := h
  exact ⟨root, Json.field?_of_members found, unknown.of_members⟩

theorem hasUnknownKind_of_unknownKind? (h : unknownKind? j = some fault) :
  HasUnknownKind Json.members j fault
  := by
  obtain ⟨root, found, unknown⟩ := Option.bind_eq_some_iff.1 h
  exact ⟨root, found, Json.hasUnknownKind_of_unknownKind? unknown⟩

/-- The look finds nothing in a filter exactly when no unknown kind is in sight. -/
theorem unknownKind?_eq_none_iff :
  unknownKind? j = none ↔ ∀ fault, ¬ HasUnknownKind Json.members j fault
  := by
  constructor
  · rintro h fault ⟨root, found, unknown⟩
    have none : root.unknownKind? = none := Option.bind_eq_none_iff.1 h root found
    apply Json.unknownKind?_eq_none_iff.1 none fault unknown
  · intro h
    cases found : unknownKind? j with
    | none => rfl
    | some fault => cases h fault (hasUnknownKind_of_unknownKind? found)

/-- No kinds of a decoded filter are unknown. -/
theorem not_hasUnknownKind (h : ofJson? j = some f) (fault : UnknownKind) :
  ¬ HasUnknownKind Json.field? j fault
  := by
  simp only [ofJson?, Option.bind_eq_bind, Option.bind_eq_some_iff] at h
  obtain ⟨-, -, -, -, root, isRoot, e, decoded, -⟩ := h
  rintro ⟨other, found, unknown⟩
  cases isRoot.symm.trans found
  apply Expression.not_hasUnknownKind decoded fault unknown

/-- The look finds nothing in a filter that can be decoded. -/
theorem unknownKind?_of_ofJson? (h : ofJson? j = some f) :
  unknownKind? j = none
  := by
  rw [unknownKind?_eq_none_iff]
  intro fault inSight
  apply not_hasUnknownKind h fault inSight.of_members

/-! ### Outcomes -/

theorem result_read (text : Json.read? s = some j) :
  (read s).result = (ofJson j).result
  := by
  rw [read, text]

theorem result_ofJson_of_unknown (h : unknownKind? j = some fault) :
  (ofJson j).result = .error (.ofUnknownKind fault)
  := by
  rw [ofJson, h]
  rfl

theorem result_ofJson_of_decoded (h : ofJson? j = some f) :
  (ofJson j).result = .ok f
  := by
  rw [ofJson, unknownKind?_of_ofJson? h, h]
  rfl

/-- What is not decoded, without an unknown kind in sight, is malformed. -/
theorem result_ofJson_of_not_decoded (known : unknownKind? j = none) (h : ofJson? j = none) :
  (ofJson j).result = .error (.malformed .notFilter)
  := by
  rw [ofJson, known, h]
  rfl

/-! ### Nodes in both forms -/

/-- A string in the place of an operand. -/
def stringOperand (s : String) : Json := .object [("Literal", .object [("String", .string s)])]

theorem ofJson?_stringOperand (s : String) :
  Operand.ofJson? (stringOperand s) = some (.literal (.string s))
  := by
  rw [stringOperand, Operand.ofJson?_of_ne _ (by decide)]
  rfl

theorem isReadable_stringOperand (s : String) :
  (stringOperand s).IsReadable
  := Json.isReadable_singleton _ (Json.isReadable_singleton _ (.string s))

/-- A leaf in the form of an array. -/
def leafArray (kind : String) : Json :=
  .array [.string kind, stringOperand "age", stringOperand "7"]

/-- A leaf in the form of an object. -/
def leafObject (kind : String) : Json :=
  .object [("right", stringOperand "7"), ("kind", .string kind), ("left", stringOperand "age")]

theorem isReadable_leafArray (kind : String) :
  (leafArray kind).IsReadable
  := by
  apply Json.IsReadable.array
  simp only [List.forall_mem_cons]
  exact ⟨.string kind, isReadable_stringOperand _, isReadable_stringOperand _,
    List.forall_mem_nil _⟩

theorem isReadable_leafObject (kind : String) :
  (leafObject kind).IsReadable
  := by
  apply Json.IsReadable.object (by simp)
  simp only [List.forall_mem_cons]
  exact ⟨isReadable_stringOperand _, .string kind, isReadable_stringOperand _,
    List.forall_mem_nil _⟩

section Leaf

variable {name : String} {kind : ExprKind} (h : ExprKind.ofName name = .ok kind)

include h

theorem ofJson?_leafArray :
  Expression.ofJson? (leafArray name)
    = some ⟨kind, .literal (.string "age"), .literal (.string "7")⟩
  := by
  apply Expression.ofJson?_eq_some_iff.2
  exact ⟨⟨_, rfl, h⟩, ⟨_, rfl, ofJson?_stringOperand _⟩, _, rfl, ofJson?_stringOperand _⟩

theorem ofJson?_leafObject :
  Expression.ofJson? (leafObject name)
    = some ⟨kind, .literal (.string "age"), .literal (.string "7")⟩
  := by
  apply Expression.ofJson?_eq_some_iff.2
  exact ⟨⟨_, rfl, h⟩, ⟨_, rfl, ofJson?_stringOperand _⟩, _, rfl, ofJson?_stringOperand _⟩

end Leaf

/-- A conjunction of leaves in both forms, with members that are none of a filter or a node. -/
def mixed (left right : String) : Json :=
  .object [
    ("left", .object [("Expression", leafObject "Regex")]),
    ("root", .object [
      ("right", .object [("Expression", leafObject right)]),
      ("kind", .string "and"),
      ("Expression", leafObject "Regex"),
      ("left", .object [("Expression", leafArray left)])]),
    ("paths", .array [.array []])]

theorem read?_write_mixed (left right : String) :
  Json.read? (mixed left right).write = some (mixed left right)
  := by
  have operand {j : Json} (h : j.IsReadable) : (Json.object [("Expression", j)]).IsReadable :=
    Json.isReadable_singleton _ h
  have readable : (mixed left right).IsReadable := by
    apply Json.IsReadable.object (by simp)
    simp only [List.forall_mem_cons]
    refine ⟨operand (isReadable_leafObject _), ?_, ?_, List.forall_mem_nil _⟩
    · apply Json.IsReadable.object (by simp)
      simp only [List.forall_mem_cons]
      exact ⟨operand (isReadable_leafObject right), .string _, isReadable_leafObject _,
        operand (isReadable_leafArray left), List.forall_mem_nil _⟩
    · apply Json.IsReadable.array
      simp only [List.forall_mem_cons]
      exact ⟨.array (List.forall_mem_nil _), List.forall_mem_nil _⟩
  rw [Json.read?_write readable, if_pos]
  change 6 ≤ 127
  decide

/-! ### What is read and what is rejected -/

/-- The look at the kinds rejects nothing that can be decoded, so a text is read as a filter exactly
when it is a JSON text whose value is decoded as the filter. -/
theorem read_eq_ok_iff_decoded :
  (∀ j f, ofJson? j = some f → unknownKind? j = none)
    ∧ ∀ s f, (read s).result = .ok f ↔ ∃ j, Json.read? s = some j ∧ ofJson? j = some f
  := by
  constructor
  · intro j f h
    apply unknownKind?_of_ofJson? h
  intro s f
  constructor
  · intro h
    cases text : Json.read? s with
    | none =>
      rw [read, text] at h
      cases h
    | some j =>
      use j, rfl
      rw [result_read text] at h
      cases known : unknownKind? j with
      | some fault => cases h.symm.trans (result_ofJson_of_unknown known)
      | none =>
        cases decoded : ofJson? j with
        | none => cases h.symm.trans (result_ofJson_of_not_decoded known decoded)
        | some g =>
          cases h.symm.trans (result_ofJson_of_decoded decoded)
          rfl
  · rintro ⟨j, text, decoded⟩
    rw [result_read text, result_ofJson_of_decoded decoded]

/-- Nodes are read in both forms, and an unknown kind outside of them is no obstacle. -/
theorem read_eq_ok_iff_decoded_mixed :
  let leaf : Expression := ⟨.equal, .literal (.string "age"), .literal (.string "7")⟩
  ofJson? (mixed "EQUAL" "equal") = some ⟨.empty, .and leaf leaf⟩
    ∧ unknownKind? (mixed "EQUAL" "equal") = none
    ∧ (read (mixed "EQUAL" "equal").write).result = .ok ⟨.empty, .and leaf leaf⟩
  := by
  intro leaf
  have operand {node : Json} (h : Expression.ofJson? node = some leaf) :
      Operand.ofJson? (.object [("Expression", node)]) = some leaf.toOperand := by
    rw [Operand.ofJson?_payload, h, Option.map_some]
  have decoded : ofJson? (mixed "EQUAL" "equal") = some ⟨.empty, .and leaf leaf⟩ := by
    simp only [ofJson?, Option.bind_eq_bind, Option.bind_eq_some_iff]
    refine ⟨_, rfl, .empty, rfl, _, rfl, .and leaf leaf, ?_, rfl⟩
    apply Expression.ofJson?_eq_some_iff.2
    exact ⟨⟨_, rfl, rfl⟩, ⟨_, rfl, operand (ofJson?_leafArray rfl)⟩,
      _, rfl, operand (ofJson?_leafObject rfl)⟩
  obtain ⟨passes, reads⟩ := read_eq_ok_iff_decoded
  exact ⟨decoded, passes _ _ decoded, (reads _ _).2 ⟨_, read?_write_mixed _ _, decoded⟩⟩

/-- A text with an unknown kind is rejected for one of its unknown kinds exactly when one is in
sight, on the way from the root through objects only; otherwise it is malformed. -/
theorem read_of_hasUnknownKind (text : Json.read? s = some j)
    (unknown : ∃ fault, HasUnknownKind Json.field? j fault) :
  ((∃ fault, HasUnknownKind Json.field? j fault ∧ (read s).result = .error (.ofUnknownKind fault))
      ↔ ∃ fault, HasUnknownKind Json.members j fault)
    ∧ ((∀ fault, ¬ HasUnknownKind Json.members j fault) →
        (read s).result = .error (.malformed .notFilter))
  := by
  have malformed (hidden : ∀ fault, ¬ HasUnknownKind Json.members j fault) :
      (read s).result = .error (.malformed .notFilter) := by
    rw [result_read text]
    apply result_ofJson_of_not_decoded (unknownKind?_eq_none_iff.2 hidden)
    obtain ⟨fault, unknown⟩ := unknown
    rw [Option.eq_none_iff_forall_ne_some]
    intro f decoded
    apply not_hasUnknownKind decoded fault unknown
  refine ⟨⟨?_, ?_⟩, malformed⟩
  · rintro ⟨fault, -, rejected⟩
    by_contra none
    cases rejected.symm.trans (malformed (not_exists.1 none))
  · rintro ⟨fault, inSight⟩
    cases found : unknownKind? j with
    | none => cases unknownKind?_eq_none_iff.1 found fault inSight
    | some first =>
      use first, (hasUnknownKind_of_unknownKind? found).of_members
      rw [result_read text, result_ofJson_of_unknown found]

/-- Beside an unknown kind in an array, one in an object has the text rejected for its kind. -/
theorem read_of_hasUnknownKind_mixed :
  HasUnknownKind Json.field? (mixed "Between" "Near") ⟨"Between"⟩
    ∧ HasUnknownKind Json.members (mixed "Between" "Near") ⟨"Near"⟩
    ∧ ∃ fault, HasUnknownKind Json.field? (mixed "Between" "Near") fault
      ∧ (read (mixed "Between" "Near").write).result = .error (.ofUnknownKind fault)
  := by
  have hidden : HasUnknownKind Json.field? (mixed "Between" "Near") ⟨"Between"⟩ :=
    ⟨_, rfl, _, .nested .here (.inl rfl) rfl rfl, rfl⟩
  have inSight : HasUnknownKind Json.members (mixed "Between" "Near") ⟨"Near"⟩ :=
    ⟨_, rfl, _, .nested .here (.inr rfl) rfl rfl, rfl⟩
  use hidden, inSight
  apply (read_of_hasUnknownKind (read?_write_mixed _ _) ⟨_, hidden⟩).1.2 ⟨_, inSight⟩

/-- A filter whose root is a leaf in the form of an array. -/
def ofRootArray (kind : String) : Json :=
  .object [("paths", .object [("nodes", .array [])]), ("root", leafArray kind)]

theorem read?_write_ofRootArray (kind : String) :
  Json.read? (ofRootArray kind).write = some (ofRootArray kind)
  := by
  have readable : (ofRootArray kind).IsReadable := by
    apply Json.isReadable_pair (by decide)
    · apply Json.isReadable_singleton _ (.array (List.forall_mem_nil _))
    · apply isReadable_leafArray
  rw [Json.read?_write readable, if_pos]
  change 4 ≤ 127
  decide

/-- An unknown kind in an array makes a text malformed that is a filter with a known one. -/
theorem read_ofRootArray :
  HasUnknownKind Json.field? (ofRootArray "Between") ⟨"Between"⟩
    ∧ Json.read? (ofRootArray "Between").write = some (ofRootArray "Between")
    ∧ (read (ofRootArray "Between").write).result = .error (.malformed .notFilter)
    ∧ ∃ f, (read (ofRootArray "Equal").write).result = .ok f
  := by
  have unknown : HasUnknownKind Json.field? (ofRootArray "Between") ⟨"Between"⟩ :=
    ⟨_, rfl, _, .here, rfl⟩
  use unknown, read?_write_ofRootArray _
  constructor
  · have unseen : unknownKind? (ofRootArray "Between") = none := by
      change (leafArray "Between").unknownKind? = none
      rw [Json.unknownKind?_eq]
      rfl
    have undecoded : ofJson? (ofRootArray "Between") = none := by
      rw [Option.eq_none_iff_forall_ne_some]
      intro f decoded
      apply not_hasUnknownKind decoded _ unknown
    rw [result_read (read?_write_ofRootArray _), result_ofJson_of_not_decoded unseen undecoded]
  · have decoded : ofJson? (ofRootArray "Equal")
        = some ⟨.empty, .equal, .literal (.string "age"), .literal (.string "7")⟩ := by
      simp only [ofJson?, Option.bind_eq_bind, Option.bind_eq_some_iff]
      exact ⟨_, rfl, .empty, rfl, _, rfl, _, ofJson?_leafArray rfl, rfl⟩
    exact ⟨_, (result_read (read?_write_ofRootArray _)).trans (result_ofJson_of_decoded decoded)⟩

end Filter

end FilterQuery
