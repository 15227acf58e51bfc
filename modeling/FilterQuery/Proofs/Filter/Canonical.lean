import FilterQuery.Compiler
import FilterQuery.Proofs.Binary64.Finite
import FilterQuery.Proofs.Filter.Kinds
import FilterQuery.Proofs.Json.Readable

/-!
# Canonical texts

One filter has many texts: records may be arrays, kinds may be in letters of either case, doubles
may be written as whole numbers and instants with an offset, null may be an object, and members may
be repeated or of no use.  The compact text of a filter that was read is among them.  For a filter
that is decoded from a readable value is writable, and each part of the canonical value is nested no
deeper than what it was decoded from, so the limit on the nesting is kept.
-/

namespace FilterQuery

/-! ### Parts of a JSON value -/

namespace Json

variable {part j : Json} {name : String}

/-- An item of an array, or the value of a member of an object. -/
inductive IsPart (part : Json) : Json → Prop
  | item {items : List Json} (listed : part ∈ items) : IsPart part (.array items)
  | member {name : String} {members : List (String × Json)} (listed : (name, part) ∈ members) :
    IsPart part (.object members)

theorem IsPart.isReadable (h : part.IsPart j) (readable : j.IsReadable) :
  part.IsReadable
  := by
  cases h with
  | item listed =>
    obtain _ | _ | _ | _ | _ | readable := readable
    apply readable _ listed
  | member listed =>
    obtain _ | _ | _ | _ | _ | _ | ⟨-, readable⟩ := readable
    apply readable _ listed

theorem IsPart.nesting_lt (h : part.IsPart j) :
  part.nesting < j.nesting
  := by
  cases h with
  | item listed => apply Nat.lt_succ_of_le (itemsNesting_le_iff.1 (Nat.le_refl _) _ listed)
  | member listed => apply Nat.lt_succ_of_le (membersNesting_le_iff.1 (Nat.le_refl _) _ listed)

theorem mem_of_lookup {members : List (String × Json)} (h : lookup name members = some part) :
  (name, part) ∈ members
  := by
  induction members with
  | nil => cases h
  | cons member members ih =>
    obtain ⟨key, value⟩ := member
    rw [lookup] at h
    split at h
    · next same =>
      cases h
      rw [same]
      apply List.mem_cons_self
    · apply List.mem_cons_of_mem _ (ih h)

theorem isPart_of_field? {fields : List String} (h : j.field? fields name = some part) :
  part.IsPart j
  := by
  cases j with
  | object members => apply IsPart.member (mem_of_lookup h)
  | array items =>
    rw [field?] at h
    split at h
    · apply IsPart.item (List.mem_of_getElem? h)
    · cases h
  | _ => cases h

theorem isPart_of_variant? (h : j.variant? = some (name, some part)) :
  part.IsPart j
  := by
  rw [eq_object_of_variant? h]
  apply IsPart.member List.mem_cons_self

theorem eq_array_of_array? {items : List Json} (h : j.array? = some items) :
  j = .array items
  := by
  cases j with
  | array => cases h; rfl
  | _ => cases h

theorem natBelow?_lt {bound n : Nat} (h : j.natBelow? bound = some n) :
  n < bound
  := by
  obtain ⟨m, within, rfl⟩ := Option.map_eq_some_iff.1 h
  unfold intWithin? at within
  split at within
  · split at within
    · cases within
      omega
    · cases within
  · cases within

/-- The number of a readable value is a finite double. -/
theorem isFinite_of_float? {x : Binary64} (readable : j.IsReadable) (h : j.float? = some x) :
  x.isFinite
  := by
  cases readable with
  | int least most =>
    cases h
    apply Binary64.isFinite_ofInt
    omega
  | float finite =>
    cases h
    exact finite
  | _ => cases h

/-! ### Nesting of canonical values -/

theorem nesting_singleton (name : String) (j : Json) :
  (Json.object [(name, j)]).nesting = j.nesting + 1
  := by
  rw [nesting, membersNesting, membersNesting, Nat.max_zero]

theorem nesting_singleton_le {n : Nat} (name : String) (h : j.nesting < n) :
  (Json.object [(name, j)]).nesting ≤ n
  := by
  rw [nesting_singleton]
  apply h

theorem nesting_ofFloat (x : Binary64) :
  (ofFloat x).nesting = 0
  := by
  rw [ofFloat]
  split <;> rfl

/-- Items that are decoded one by one have a property that each of them has, and their array is
nested no deeper if none of them is. -/
theorem forall_and_nesting_le_of_mapM {α : Type} {encode : α → Json} {decode? : Json → Option α}
    {P : α → Prop} {items : List Json} {l : List α} (h : items.mapM decode? = some l)
    (each : ∀ item ∈ items, ∀ a, decode? item = some a → P a ∧ (encode a).nesting ≤ item.nesting) :
  (∀ a ∈ l, P a) ∧ (Json.array (l.map encode)).nesting ≤ (Json.array items).nesting
  := by
  rw [nesting, nesting, Nat.add_le_add_iff_right]
  induction items generalizing l with
  | nil =>
    cases h
    exact ⟨List.forall_mem_nil _, Nat.le_refl _⟩
  | cons item items ih =>
    simp only [List.mapM_cons, Option.bind_eq_bind, Option.bind_eq_some_iff] at h
    obtain ⟨a, decoded, rest, others, same⟩ := h
    cases same
    obtain ⟨first, flat⟩ := each item List.mem_cons_self a decoded
    obtain ⟨all, below⟩ := ih others fun item listed => each item (List.mem_cons_of_mem _ listed)
    exact ⟨List.forall_mem_cons.2 ⟨first, all⟩, max_le_max flat below⟩

theorem nesting_ofBytes (bytes : List UInt8) :
  (ofBytes bytes).nesting = 1
  := by
  have flat : itemsNesting (bytes.map fun b => ofNat b.toNat) ≤ 0 := by
    rw [itemsNesting_le_iff]
    intro item listed
    obtain ⟨b, -, rfl⟩ := List.mem_map.1 listed
    exact Nat.le_refl _
  rw [ofBytes, nesting, Nat.le_zero.1 flat]

end Json

variable {j : Json}

/-! ### Arenas -/

theorem FieldRef.isWritable_of_ofJson? {field : FieldRef} (h : ofJson? j = some field) :
  field.IsWritable
  := by
  obtain ⟨n, below, rfl⟩ := Option.map_eq_some_iff.1 h
  apply Json.natBelow?_lt below

theorem FieldNode.isWritable_of_owner? {owner : Option Json} {field : Option FieldRef}
    (h : owner? owner = some field) :
  ∀ ref ∈ field, ref.IsWritable
  := by
  unfold owner? at h
  split at h
  · cases h
    rintro ref ⟨⟩
  · cases h
    rintro ref ⟨⟩
  · obtain ⟨ref, decoded, rfl⟩ := Option.map_eq_some_iff.1 h
    rintro _ ⟨⟩
    apply FieldRef.isWritable_of_ofJson? decoded

theorem FieldNode.nesting_toJson (node : FieldNode) :
  node.toJson.nesting = 1
  := by
  obtain ⟨name, owner⟩ := node
  cases owner <;> rfl

theorem FieldNode.isWritable_of_ofJson? {node : FieldNode} (h : ofJson? j = some node) :
  node.IsWritable ∧ node.toJson.nesting ≤ j.nesting
  := by
  simp only [ofJson?, Option.bind_eq_bind, Option.bind_eq_some_iff] at h
  obtain ⟨nameJson, found, name, -, owner, isOwner, same⟩ := h
  cases same
  use isWritable_of_owner? isOwner
  rw [nesting_toJson]
  apply Nat.zero_lt_of_lt (Json.isPart_of_field? found).nesting_lt

theorem FieldArena.isWritable_of_ofJson? {arena : FieldArena} (h : ofJson? j = some arena) :
  arena.IsWritable ∧ arena.toJson.nesting ≤ j.nesting
  := by
  simp only [ofJson?, Option.bind_eq_bind, Option.bind_eq_some_iff] at h
  obtain ⟨nodesJson, found, items, isArray, h⟩ := h
  obtain ⟨nodes, decoded, rfl⟩ := Option.map_eq_some_iff.1 h
  cases Json.eq_array_of_array? isArray
  obtain ⟨writable, nested⟩ : (∀ node ∈ nodes, node.IsWritable)
      ∧ (Json.array (nodes.map FieldNode.toJson)).nesting ≤ (Json.array items).nesting :=
    Json.forall_and_nesting_le_of_mapM decoded fun _ _ _ => FieldNode.isWritable_of_ofJson?
  use writable
  apply Json.nesting_singleton_le
  apply Nat.lt_of_le_of_lt nested (Json.isPart_of_field? found).nesting_lt

/-! ### Data -/

theorem Pattern.nesting_le_of_ofJson? {p : Pattern} (h : ofJson? j = some p) :
  p.toJson.nesting ≤ j.nesting
  := by
  simp only [ofJson?, Option.bind_eq_bind, Option.bind_eq_some_iff] at h
  obtain ⟨pattern, found, -⟩ := h
  apply Nat.zero_lt_of_lt (Json.isPart_of_field? found).nesting_lt

theorem Json.nesting_ofBytes_le {block bytes : List UInt8} (h : j.bytes? = some bytes) :
  (Json.ofBytes block).nesting ≤ j.nesting
  := by
  obtain ⟨items, isArray, -⟩ := Option.bind_eq_some_iff.1 h
  cases Json.eq_array_of_array? isArray
  rw [Json.nesting_ofBytes, Json.nesting]
  apply Nat.le_add_left

/-- The value of a variant is finite if the payload is readable, and canonically it is nested one
deeper than the payload at most. -/
theorem Value.isFinite_of_ofVariant? {name : String} {payload : Option Json} {v : Value} {n : Nat}
    (readable : ∀ j ∈ payload, j.IsReadable) (below : ∀ j ∈ payload, j.nesting < n)
    (h : ofVariant? name payload = some v) :
  v.IsFinite ∧ v.toJson.nesting ≤ n
  := by
  unfold ofVariant? at h
  split at h
  -- The numbers of readable values are finite as doubles.
  case h_3 j =>
    obtain ⟨x, number, rfl⟩ := Option.map_eq_some_iff.1 h
    use Json.isFinite_of_float? (readable j rfl) number
    apply Json.nesting_singleton_le
    rw [Json.nesting_ofFloat]
    apply Nat.zero_lt_of_lt (below j rfl)
  -- Document identifiers and byte strings are arrays of bytes, and patterns are records.
  case h_7 j =>
    obtain ⟨id, decoded, rfl⟩ := Option.map_eq_some_iff.1 h
    obtain ⟨bytes, areBytes, -⟩ := Option.bind_eq_some_iff.1 decoded
    use trivial
    apply Json.nesting_singleton_le
    apply Nat.lt_of_le_of_lt (Json.nesting_ofBytes_le areBytes) (below j rfl)
  case h_8 j =>
    obtain ⟨bytes, areBytes, rfl⟩ := Option.map_eq_some_iff.1 h
    use trivial
    apply Json.nesting_singleton_le
    apply Nat.lt_of_le_of_lt (Json.nesting_ofBytes_le areBytes) (below j rfl)
  case h_11 j =>
    obtain ⟨p, decoded, rfl⟩ := Option.map_eq_some_iff.1 h
    use trivial
    apply Json.nesting_singleton_le
    apply Nat.lt_of_le_of_lt (Pattern.nesting_le_of_ofJson? decoded) (below j rfl)
  -- Null has no payload.
  case h_12 | h_13 =>
    cases h
    exact ⟨trivial, Nat.zero_le _⟩
  case h_14 => cases h
  -- The payload of any other type is canonically a scalar.
  all_goals
    obtain ⟨x, -, rfl⟩ := Option.map_eq_some_iff.1 h
    exact ⟨trivial, Nat.zero_lt_of_lt (below _ rfl)⟩

theorem Value.isFinite_of_ofJson? {v : Value} (readable : j.IsReadable) (h : ofJson? j = some v) :
  v.IsFinite ∧ v.toJson.nesting ≤ j.nesting
  := by
  obtain ⟨⟨name, payload⟩, isVariant, decoded⟩ := Option.bind_eq_some_iff.1 h
  have part : ∀ k ∈ payload, k.IsPart j := by
    rintro k ⟨⟩
    apply Json.isPart_of_variant? isVariant
  apply isFinite_of_ofVariant? _ _ decoded
  · exact fun k given => (part k given).isReadable readable
  · exact fun k given => (part k given).nesting_lt

theorem Json.isFinite_of_values? {values : List Value} (readable : j.IsReadable)
    (h : j.values? = some values) :
  (∀ v ∈ values, v.IsFinite) ∧ (ofValues values).nesting ≤ j.nesting
  := by
  obtain ⟨items, isArray, decoded⟩ := Option.bind_eq_some_iff.1 h
  cases eq_array_of_array? isArray
  apply forall_and_nesting_le_of_mapM decoded
  intro item listed v
  apply Value.isFinite_of_ofJson? ((IsPart.item listed).isReadable readable)

theorem Range.isWritable_of_ofJson? {range : Range} (readable : j.IsReadable)
    (h : ofJson? j = some range) :
  range.IsWritable ∧ range.toJson.nesting ≤ j.nesting
  := by
  simp only [ofJson?, Option.bind_eq_bind, Option.bind_eq_some_iff] at h
  obtain ⟨startJson, hs, start, isStart, stopJson, he, stop, isStop, same⟩ := h
  cases same
  have startPart := Json.isPart_of_field? hs
  have stopPart := Json.isPart_of_field? he
  obtain ⟨startFinite, startFlat⟩ :=
    Value.isFinite_of_ofJson? (startPart.isReadable readable) isStart
  obtain ⟨stopFinite, stopFlat⟩ := Value.isFinite_of_ofJson? (stopPart.isReadable readable) isStop
  use ⟨startFinite, stopFinite⟩
  have := startPart.nesting_lt
  have := stopPart.nesting_lt
  simp only [toJson, Json.nesting, Json.membersNesting]
  omega

theorem FunctionCall.isWritable_of_ofJson? {call : FunctionCall} (readable : j.IsReadable)
    (h : ofJson? j = some call) :
  call.IsWritable ∧ call.toJson.nesting ≤ j.nesting
  := by
  simp only [ofJson?, Option.bind_eq_bind, Option.bind_eq_some_iff] at h
  obtain ⟨nameJson, -, name, -, argsJson, ha, args, areArgs, same⟩ := h
  cases same
  have argsPart := Json.isPart_of_field? ha
  obtain ⟨finite, flat⟩ := Json.isFinite_of_values? (argsPart.isReadable readable) areArgs
  use finite
  have := argsPart.nesting_lt
  simp only [toJson, Json.nesting, Json.membersNesting]
  omega

/-! ### Trees -/

/-- An operand that is no expression is writable if the payload of its variant is readable, and
canonically nested one deeper than the payload at most. -/
theorem Operand.isWritable_of_ofVariant? {name : String} {operand : Operand}
    (readable : j.IsReadable) (h : ofVariant? name j = some operand) :
  operand.IsWritable ∧ operand.toJson.nesting ≤ j.nesting + 1
  := by
  unfold ofVariant? at h
  split at h
  · obtain ⟨ref, decoded, rfl⟩ := Option.map_eq_some_iff.1 h
    use FieldRef.isWritable_of_ofJson? decoded
    apply Json.nesting_singleton_le _ (Nat.succ_pos _)
  · obtain ⟨value, decoded, rfl⟩ := Option.map_eq_some_iff.1 h
    obtain ⟨finite, flat⟩ := Value.isFinite_of_ofJson? readable decoded
    use finite
    apply Json.nesting_singleton_le _ (Nat.lt_succ_of_le flat)
  · obtain ⟨range, decoded, rfl⟩ := Option.map_eq_some_iff.1 h
    obtain ⟨writable, flat⟩ := Range.isWritable_of_ofJson? readable decoded
    use writable
    apply Json.nesting_singleton_le _ (Nat.lt_succ_of_le flat)
  · obtain ⟨values, decoded, rfl⟩ := Option.map_eq_some_iff.1 h
    obtain ⟨finite, flat⟩ := Json.isFinite_of_values? readable decoded
    use finite
    apply Json.nesting_singleton_le _ (Nat.lt_succ_of_le flat)
  · obtain ⟨call, decoded, rfl⟩ := Option.map_eq_some_iff.1 h
    obtain ⟨writable, flat⟩ := FunctionCall.isWritable_of_ofJson? readable decoded
    use writable
    apply Json.nesting_singleton_le _ (Nat.lt_succ_of_le flat)
  · cases h

/-- An operand of a readable value is writable, and canonically nested no deeper. -/
theorem Operand.isWritable_of_ofJson? {j : Json} {operand : Operand} (readable : j.IsReadable)
    (h : ofJson? j = some operand) :
  operand.IsWritable ∧ operand.toJson.nesting ≤ j.nesting
  := by
  obtain ⟨name, payload, shape⟩ := exists_of_ofJson? h
  have part : payload.IsPart j := by
    rw [shape]
    apply Json.IsPart.member List.mem_cons_self
  have inside := part.isReadable readable
  have lower := part.nesting_lt
  rw [shape] at h
  by_cases node : name = "Expression"
  · rw [node, ofJson?_payload] at h
    obtain ⟨e, decoded, rfl⟩ := Option.map_eq_some_iff.1 h
    obtain ⟨-, ⟨left, hl, isLeft⟩, right, hr, isRight⟩ := Expression.ofJson?_eq_some_iff.1 decoded
    have leftPart := Json.isPart_of_field? hl
    have rightPart := Json.isPart_of_field? hr
    have leftLower := leftPart.nesting_lt
    have rightLower := rightPart.nesting_lt
    obtain ⟨leftWritable, leftFlat⟩ := isWritable_of_ofJson? (leftPart.isReadable inside) isLeft
    obtain ⟨rightWritable, rightFlat⟩ :=
      isWritable_of_ofJson? (rightPart.isReadable inside) isRight
    use ⟨leftWritable, rightWritable⟩
    simp only [Expression.toOperand, toJson, ExprKind.toJson, Json.nesting, Json.membersNesting]
    omega
  · rw [ofJson?_of_ne _ node] at h
    obtain ⟨writable, flat⟩ := isWritable_of_ofVariant? inside h
    use writable
    apply flat.trans lower
termination_by j.nesting

theorem Expression.isWritable_of_ofJson? {e : Expression} (readable : j.IsReadable)
    (h : ofJson? j = some e) :
  e.IsWritable ∧ e.toJson.nesting ≤ j.nesting
  := by
  have decoded : Operand.ofJson? (.object [("Expression", j)]) = some e.toOperand := by
    rw [Operand.ofJson?_payload, h, Option.map_some]
  have whole := Json.isReadable_singleton "Expression" readable
  obtain ⟨writable, nested⟩ := Operand.isWritable_of_ofJson? whole decoded
  use writable
  have shape : e.toOperand.toJson = .object [("Expression", e.toJson)] := rfl
  rw [shape, Json.nesting_singleton, Json.nesting_singleton] at nested
  apply Nat.le_of_succ_le_succ nested

/-! ### Filters -/

namespace Filter

/-- A filter of a readable value is writable, and canonically nested no deeper. -/
theorem isWritable_of_ofJson? {f : Filter} (readable : j.IsReadable) (h : ofJson? j = some f) :
  f.IsWritable ∧ f.toJson.nesting ≤ j.nesting
  := by
  simp only [ofJson?, Option.bind_eq_bind, Option.bind_eq_some_iff] at h
  obtain ⟨pathsJson, hp, paths, arePaths, rootJson, hr, root, isRoot, same⟩ := h
  cases same
  have pathsPart := Json.isPart_of_field? hp
  have rootPart := Json.isPart_of_field? hr
  obtain ⟨pathsWritable, pathsFlat⟩ := FieldArena.isWritable_of_ofJson? arePaths
  obtain ⟨rootWritable, rootFlat⟩ :=
    Expression.isWritable_of_ofJson? (rootPart.isReadable readable) isRoot
  use ⟨pathsWritable, rootWritable⟩
  have := pathsPart.nesting_lt
  have := rootPart.nesting_lt
  simp only [toJson, Json.nesting, Json.membersNesting]
  omega

/-- A text that is read as a filter is that of a value that is decoded, and leaves no events. -/
theorem exists_of_read {s : String} {f : Filter} (h : (read s).result = .ok f) :
  read s = pure f ∧ ∃ j, Json.read? s = some j ∧ ofJson? j = some f
  := by
  unfold read ofJson at *
  cases text : Json.read? s with
  | none =>
    rw [text] at h
    cases h
  | some j =>
    rw [text] at h
    simp only at h ⊢
    split at h
    · cases h
    · next known =>
      split at h
      · next g decoded =>
        cases h
        exact ⟨rfl, j, rfl, decoded⟩
      · cases h

/-- The compact text of a filter that was read is nested within the limit and read as the filter, so
every compiler does with it what it does with the text the filter was read from. -/
theorem read_write_of_read {s : String} {f : Filter} (h : (read s).result = .ok f) :
  f.toJson.nesting ≤ Json.maxNesting
    ∧ read f.write = pure f
    ∧ ∀ c : Compiler, c.compileText f.write = c.compileText s
  := by
  obtain ⟨reads, j, text, decoded⟩ := exists_of_read h
  obtain ⟨readable, within⟩ := Json.isReadable_of_read? text
  obtain ⟨writable, flat⟩ := isWritable_of_ofJson? readable decoded
  have nested := flat.trans within
  have canonical : Json.read? f.write = some f.toJson :=
    (Json.read?_write (isReadable_toJson writable)).trans (if_pos nested)
  have rereads : read f.write = pure f := by
    rw [read, canonical]
    apply ofJson_toJson writable
  refine ⟨nested, rereads, ?_⟩
  intro c
  rw [Compiler.compileText, Compiler.compileText, rereads, reads]

/-- A text with a repeated member and one of no use, records in arrays, a whole number for a double,
an object for null and an instant with an offset is read, and so is the compact text. -/
theorem read_write_of_read_offset :
  let s := " \x7b\"paths\":0,\"paths\":[[[\"at\",null]]],\"root\":[\"eQual\",\x7b\"Field\":0\x7d,"
    ++ "\x7b\"List\":[\x7b\"Float\":1\x7d,\x7b\"Null\":null\x7d,"
    ++ "\x7b\"Timestamp\":\"2024-02-29t12:00:00+02:00\"\x7d]\x7d],\"x\":\x7b\x7d\x7d"
  let f : Filter :=
    ⟨⟨[⟨"at", none⟩]⟩,
      ⟨.equal, .field ⟨0⟩, .list [
        .float ⟨0x3FF0000000000000⟩, .null,
        .timestamp ⟨⟨2024, 2, 29, by decide⟩, 36000, 0, by decide⟩]⟩⟩
  (read s).result = .ok f ∧ read f.write = pure f
    ∧ ∀ c : Compiler, c.compileText f.write = c.compileText s
  := by
  intro s f
  have reads : (read s).result = .ok f := by decide +kernel
  exact ⟨reads, (read_write_of_read reads).2⟩

end Filter

end FilterQuery
