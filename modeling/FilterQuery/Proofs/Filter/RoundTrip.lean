import FilterQuery.Filter.Reader
import FilterQuery.Proofs.Value.RoundTrip

/-!
# Written filters read back

A filter is writable when its doubles are finite and its references have 64 bits.  The text of a
writable filter is read as the filter, unless arrays and objects are nested too deep in it; then it
is no JSON text for the reader.
-/

namespace FilterQuery

/-! ### References -/

/-- Whether a reference has 64 bits. -/
def FieldRef.IsWritable (field : FieldRef) : Prop := field.index < UInt64.size

instance (field : FieldRef) : Decidable field.IsWritable := inferInstanceAs (Decidable (_ < _))

theorem FieldRef.ofJson?_toJson {field : FieldRef} (h : field.IsWritable) :
  ofJson? field.toJson = some field
  := by
  rw [toJson, ofJson?, Json.natBelow?_ofNat h, Option.map_some]

theorem FieldRef.isReadable_toJson {field : FieldRef} (h : field.IsWritable) :
  field.toJson.IsReadable
  := Json.isReadable_ofNat h

/-! ### Arenas -/

namespace FieldNode

/-- Whether the owner of a node, if there is one, has 64 bits. -/
def IsWritable (node : FieldNode) : Prop := ∀ owner ∈ node.owner, owner.IsWritable

instance (node : FieldNode) : Decidable node.IsWritable :=
  inferInstanceAs (Decidable (∀ owner ∈ node.owner, owner.IsWritable))

theorem ofJson?_toJson {node : FieldNode} (h : node.IsWritable) :
  ofJson? node.toJson = some node
  := by
  obtain ⟨name, owner⟩ := node
  cases owner with
  | none => rfl
  | some owner =>
    have decoded : owner? (some owner.toJson) = some (some owner) := by
      have ref := FieldRef.ofJson?_toJson (h owner rfl)
      rw [FieldRef.toJson, Json.ofNat] at ref ⊢
      rw [owner?, ref, Option.map_some]
      rintro ⟨⟩
    rw [toJson, ofJson?]
    simp [Json.field?, Json.lookup, Json.string?, decoded]

theorem isReadable_toJson {node : FieldNode} (h : node.IsWritable) :
  node.toJson.IsReadable
  := by
  obtain ⟨name, owner⟩ := node
  apply Json.isReadable_pair (by decide) (.string name)
  cases owner with
  | none => exact .null
  | some owner => apply FieldRef.isReadable_toJson (h owner rfl)

end FieldNode

namespace FieldArena

/-- Whether the owners of all nodes have 64 bits. -/
def IsWritable (arena : FieldArena) : Prop := ∀ node ∈ arena.nodes, node.IsWritable

instance (arena : FieldArena) : Decidable arena.IsWritable :=
  inferInstanceAs (Decidable (∀ node ∈ arena.nodes, node.IsWritable))

theorem ofJson?_toJson {arena : FieldArena} (h : arena.IsWritable) :
  ofJson? arena.toJson = some arena
  := by
  have nodes : (arena.nodes.map FieldNode.toJson).mapM FieldNode.ofJson? = some arena.nodes :=
    mapM_map_eq_some fun node hn => FieldNode.ofJson?_toJson (h node hn)
  rw [toJson, ofJson?]
  simp [Json.field?, Json.lookup, Json.array?, nodes]

theorem isReadable_toJson {arena : FieldArena} (h : arena.IsWritable) :
  arena.toJson.IsReadable
  := by
  apply Json.isReadable_singleton
  apply Json.isReadable_map
  exact fun node hn => FieldNode.isReadable_toJson (h node hn)

end FieldArena

/-! ### Data -/

theorem Json.values?_ofValues {values : List Value} (h : ∀ v ∈ values, v.IsFinite) :
  (Json.ofValues values).values? = some values
  := mapM_map_eq_some fun v hv => Value.ofJson?_toJson (h v hv)

theorem Json.isReadable_ofValues {values : List Value} (h : ∀ v ∈ values, v.IsFinite) :
  (Json.ofValues values).IsReadable
  := Json.isReadable_map fun v hv => Value.isReadable_toJson (h v hv)

/-- Whether both ends of a range are finite. -/
def Range.IsWritable (range : Range) : Prop := range.start.IsFinite ∧ range.stop.IsFinite

instance (range : Range) : Decidable range.IsWritable := inferInstanceAs (Decidable (_ ∧ _))

theorem Range.ofJson?_toJson {range : Range} (h : range.IsWritable) :
  ofJson? range.toJson = some range
  := by
  rw [toJson, ofJson?]
  simp [Json.field?, Json.lookup, Value.ofJson?_toJson h.1, Value.ofJson?_toJson h.2]

theorem Range.isReadable_toJson {range : Range} (h : range.IsWritable) :
  range.toJson.IsReadable
  := by
  apply Json.isReadable_pair (by decide)
  · apply Value.isReadable_toJson h.1
  · apply Value.isReadable_toJson h.2

/-- Whether the arguments of a call are finite. -/
def FunctionCall.IsWritable (call : FunctionCall) : Prop := ∀ v ∈ call.args, v.IsFinite

instance (call : FunctionCall) : Decidable call.IsWritable :=
  inferInstanceAs (Decidable (∀ v ∈ call.args, v.IsFinite))

theorem FunctionCall.ofJson?_toJson {call : FunctionCall} (h : call.IsWritable) :
  ofJson? call.toJson = some call
  := by
  rw [toJson, ofJson?]
  simp [Json.field?, Json.lookup, Json.string?, Json.values?_ofValues h]

theorem FunctionCall.isReadable_toJson {call : FunctionCall} (h : call.IsWritable) :
  call.toJson.IsReadable
  := by
  apply Json.isReadable_pair (by decide) (.string _)
  apply Json.isReadable_ofValues h

theorem ExprKind.ofJson?_toJson (kind : ExprKind) :
  ofJson? kind.toJson = some kind
  := by
  rw [toJson, ofJson?, Json.string?]
  simp [ofName_name, Except.toOption]

/-! ### Trees -/

namespace Operand

/-- Whether the doubles of an operand are finite and its references have 64 bits. -/
def IsWritable : Operand → Prop
  | .expression _ left right => left.IsWritable ∧ right.IsWritable
  | .field ref => ref.IsWritable
  | .literal value => value.IsFinite
  | .range r => r.IsWritable
  | .list values => ∀ v ∈ values, v.IsFinite
  | .call c => c.IsWritable

instance decidableIsWritable : (operand : Operand) → Decidable operand.IsWritable
  | .expression _ left right =>
    have := decidableIsWritable left
    have := decidableIsWritable right
    inferInstanceAs (Decidable (left.IsWritable ∧ right.IsWritable))
  | .field ref => inferInstanceAs (Decidable ref.IsWritable)
  | .literal value => inferInstanceAs (Decidable value.IsFinite)
  | .range r => inferInstanceAs (Decidable r.IsWritable)
  | .list values => inferInstanceAs (Decidable (∀ v ∈ values, v.IsFinite))
  | .call c => inferInstanceAs (Decidable c.IsWritable)

/-- An expression is decoded when its kind and both of its operands are. -/
theorem ofJson?_expression {kind : ExprKind} {left right : Operand} {leftJson rightJson : Json}
    (hl : ofJson? leftJson = some left) (hr : ofJson? rightJson = some right) :
  ofJson? (.object [("Expression",
      .object [("kind", kind.toJson), ("left", leftJson), ("right", rightJson)])])
    = some (.expression kind left right)
  := by
  rw [ofJson?]
  simp [Json.variant?, Json.field?, Json.lookup, ExprKind.ofJson?_toJson, hl, hr]

theorem ofJson?_of_ne {name : String} (payload : Json) (h : name ≠ "Expression") :
  ofJson? (.object [(name, payload)]) = ofVariant? name payload
  := by
  rw [ofJson?]
  simp [Json.variant?, h]

/-- The JSON value of a writable operand is decoded as it. -/
theorem ofJson?_toJson {operand : Operand} (h : operand.IsWritable) :
  ofJson? operand.toJson = some operand
  := by
  induction operand with
  | expression kind left right leftRead rightRead =>
    apply ofJson?_expression (leftRead h.1) (rightRead h.2)
  | field ref =>
    rw [toJson, ofJson?_of_ne _ (by decide), ofVariant?, FieldRef.ofJson?_toJson h, Option.map_some]
  | literal value =>
    rw [toJson, ofJson?_of_ne _ (by decide), ofVariant?, Value.ofJson?_toJson h, Option.map_some]
  | range r =>
    rw [toJson, ofJson?_of_ne _ (by decide), ofVariant?, Range.ofJson?_toJson h, Option.map_some]
  | list values =>
    rw [toJson, ofJson?_of_ne _ (by decide), ofVariant?, Json.values?_ofValues h, Option.map_some]
  | call c =>
    rw [toJson, ofJson?_of_ne _ (by decide), ofVariant?, FunctionCall.ofJson?_toJson h,
      Option.map_some]

end Operand

/-- An expression is readable when both of its operands are. -/
theorem isReadable_expression (kind : ExprKind) {left right : Json} (hl : left.IsReadable)
    (hr : right.IsReadable) :
  (Json.object [("kind", kind.toJson), ("left", left), ("right", right)]).IsReadable
  := by
  apply Json.IsReadable.object
  · simp
  · simp only [List.forall_mem_cons]
    exact ⟨.string _, hl, hr, List.forall_mem_nil _⟩

theorem Operand.isReadable_toJson {operand : Operand} (h : operand.IsWritable) :
  operand.toJson.IsReadable
  := by
  induction operand with
  | expression kind left right leftRead rightRead =>
    apply Json.isReadable_singleton _ (isReadable_expression kind (leftRead h.1) (rightRead h.2))
  | field ref => apply Json.isReadable_singleton _ (FieldRef.isReadable_toJson h)
  | literal value => apply Json.isReadable_singleton _ (Value.isReadable_toJson h)
  | range r => apply Json.isReadable_singleton _ (Range.isReadable_toJson h)
  | list values => apply Json.isReadable_singleton _ (Json.isReadable_ofValues h)
  | call c => apply Json.isReadable_singleton _ (FunctionCall.isReadable_toJson h)

namespace Expression

/-- Whether both operands of an expression are writable. -/
def IsWritable (e : Expression) : Prop := e.left.IsWritable ∧ e.right.IsWritable

instance (e : Expression) : Decidable e.IsWritable := inferInstanceAs (Decidable (_ ∧ _))

theorem ofJson?_toJson {e : Expression} (h : e.IsWritable) :
  ofJson? e.toJson = some e
  := by
  rw [toJson, ofJson?]
  simp [Json.field?, Json.lookup, ExprKind.ofJson?_toJson, Operand.ofJson?_toJson h.1,
    Operand.ofJson?_toJson h.2]

theorem isReadable_toJson {e : Expression} (h : e.IsWritable) :
  e.toJson.IsReadable
  := isReadable_expression e.kind (Operand.isReadable_toJson h.1) (Operand.isReadable_toJson h.2)

end Expression

/-! ### Kinds -/

section Kinds

variable (e : Expression)

theorem Expression.unknownKindHere?_toJson :
  e.toJson.unknownKindHere? = none
  := by
  simp [Json.unknownKindHere?, toJson, Json.get?, Json.lookup, ExprKind.toJson,
    ExprKind.ofName_name]

theorem Expression.nestedNode?_right :
  e.toJson.nestedNode? "right" = e.right.toJson.get? "Expression"
  := rfl

theorem Expression.nestedNode?_left :
  e.toJson.nestedNode? "left" = e.left.toJson.get? "Expression"
  := rfl

/-- The JSON value of an operand holds no unknown kind. -/
theorem Operand.unknownKind?_toJson (operand : Operand) :
  (operand.toJson.get? "Expression").bind Json.unknownKind? = none
  := by
  induction operand with
  | expression kind left right leftKnown rightKnown =>
    have node : (toJson (.expression kind left right)).get? "Expression"
        = some (Expression.toJson ⟨kind, left, right⟩) := rfl
    rw [node, Option.bind_some, Json.unknownKind?_eq, Expression.unknownKindHere?_toJson,
      Expression.nestedNode?_right, Expression.nestedNode?_left, rightKnown, leftKnown]
    rfl
  | _ => rfl

theorem Expression.unknownKind?_toJson :
  e.toJson.unknownKind? = none
  := e.toOperand.unknownKind?_toJson

end Kinds

/-! ### Filters -/

namespace Filter

/-- Whether the doubles of a filter are finite and its references have 64 bits. -/
def IsWritable (f : Filter) : Prop := f.paths.IsWritable ∧ f.root.IsWritable

instance (f : Filter) : Decidable f.IsWritable := inferInstanceAs (Decidable (_ ∧ _))

theorem ofJson_toJson {f : Filter} (h : f.IsWritable) :
  ofJson f.toJson = pure f
  := by
  have known : unknownKind? f.toJson = none := f.root.unknownKind?_toJson
  have decoded : ofJson? f.toJson = some f := by
    rw [toJson, ofJson?]
    simp [Json.field?, Json.lookup, FieldArena.ofJson?_toJson h.1, Expression.ofJson?_toJson h.2]
  rw [ofJson, known, decoded]

theorem isReadable_toJson {f : Filter} (h : f.IsWritable) :
  f.toJson.IsReadable
  := by
  apply Json.isReadable_pair (by decide)
  · apply FieldArena.isReadable_toJson h.1
  · apply Expression.isReadable_toJson h.2

end Filter

end FilterQuery
