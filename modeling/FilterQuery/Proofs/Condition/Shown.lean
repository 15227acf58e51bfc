import FilterQuery.Proofs.Bson.ExtendedJson
import FilterQuery.Proofs.Condition.WellFormed

/-!
# Queries and their texts

The text of a query without doubles shows all of it but the order of the options of its regular
expressions.  Names of fields may be anything, also what the objects that show scalars are told
apart by: a query is read from its JSON along the grammar of the store, in which the place of a
name says whether it is that of a field, of an operator or of a scalar.
-/

namespace FilterQuery

namespace Query

/-! ### Reading along the grammar -/

/-- What an operator compares with, as it is shown in JSON. -/
def operand? : Json → Option Bson
  | .array items => (items.mapM Bson.scalar?).map .array
  | j => Bson.scalar? j

/-- The value of the member of a query, as it is shown in JSON.  An array is under a logical
operator, and an object with the name of an operator under a field. -/
def member? : Json → Option Bson
  | .array [.object [(first, j)], .object [(second, k)]] => do
    let left ← member? j
    let right ← member? k
    some (.array [.document [(first, left)], .document [(second, right)]])
  | .object [(name, j)] =>
    if (Operator.ofName? name).isSome then (operand? j).map fun b => .document [(name, b)]
    else Bson.ofMember? name j
  | j => Bson.scalar? j

/-- The document of a query, as it is shown in JSON. -/
def document? : Json → Option Document
  | .object [(name, j)] => (member? j).map fun b => [(name, b)]
  | _ => none

section Reading

variable {isField : String → Prop} {operator : Operator} {b : Bson} {d : Document}

/-- The name of a member that shows a scalar is not that of an operator. -/
theorem member?_of_isScalar (scalar : b.isScalar) (plain : b.hasDouble = false) :
  member? b.toExtendedJson = some b.withSortedOptions
  := by
  rw [← Bson.scalar?_toExtendedJson scalar plain]
  cases b with
  | double x => cases plain
  | array items => cases scalar
  | document members => cases scalar
  | binary | objectId | dateTime | regex =>
    change member? (.object [(_, _)]) = _
    rw [member?, if_neg (by decide)]
    rfl
  | _ => simp [Bson.toExtendedJson, member?]

/-- What an operator compares with is read back. -/
theorem operand?_of_accepts (accepted : operator.Accepts b) (plain : b.hasDouble = false) :
  operand? b.toExtendedJson = some b.withSortedOptions
  := by
  unfold Operator.Accepts at accepted
  split at accepted
  · obtain ⟨items, rfl, scalars⟩ := accepted
    have plain := Bson.itemsHaveDouble_eq_false_iff.1 plain
    have read : (items.map Bson.toExtendedJson).mapM Bson.scalar?
        = some (items.map Bson.withSortedOptions) := by
      apply mapM_map_eq_some_map
      intro b listed
      apply Bson.scalar?_toExtendedJson (scalars b listed) (plain b listed)
    rw [Bson.toExtendedJson, Bson.extendedItems_eq_map, operand?, read, Option.map_some,
      Bson.withSortedOptions, Bson.itemsWithSortedOptions_eq_map]
  · rw [← Bson.scalar?_toExtendedJson accepted plain]
    cases b with
    | double x => cases plain
    | array items => cases accepted
    | document members => cases accepted
    | _ => rfl

/-- What is shown of an operand is readable. -/
theorem isReadable_of_accepts (accepted : operator.Accepts b) (plain : b.hasDouble = false) :
  b.toExtendedJson.IsReadable
  := by
  unfold Operator.Accepts at accepted
  split at accepted
  · obtain ⟨items, rfl, scalars⟩ := accepted
    have plain := Bson.itemsHaveDouble_eq_false_iff.1 plain
    rw [Bson.toExtendedJson, Bson.extendedItems_eq_map]
    apply Json.isReadable_map
    intro b listed
    apply Bson.isReadable_toExtendedJson (scalars b listed) (plain b listed)
  · apply Bson.isReadable_toExtendedJson accepted plain

/-- Whether a value is readable, and read back as that of the member of a query. -/
structure IsShown (b : Bson) : Prop where
  reads : member? b.toExtendedJson = some b.withSortedOptions
  isReadable : b.toExtendedJson.IsReadable

namespace IsShown

theorem equal (scalar : b.isScalar) (plain : b.hasDouble = false) :
  IsShown b
  := ⟨member?_of_isScalar scalar plain, Bson.isReadable_toExtendedJson scalar plain⟩

theorem compare {name : String} (known : Operator.ofName? name = some operator)
    (accepted : operator.Accepts b) (plain : b.hasDouble = false) :
  IsShown (.document [(name, b)])
  := by
  constructor
  · have named : (Operator.ofName? name).isSome := by
      rw [known]
      rfl
    change member? (.object [(name, b.toExtendedJson)]) = _
    rw [member?, if_pos named, operand?_of_accepts accepted plain]
    rfl
  · apply Json.isReadable_singleton _ (isReadable_of_accepts accepted plain)

theorem join {c : Bson} (left : IsShown b) (right : IsShown c) (first second : String) :
  IsShown (.array [.document [(first, b)], .document [(second, c)]])
  := by
  constructor
  · change member? (.array [.object [(first, b.toExtendedJson)],
      .object [(second, c.toExtendedJson)]]) = _
    rw [member?, left.reads, right.reads]
    rfl
  · apply Json.IsReadable.array
    intro item listed
    have listed : item = .object [(first, b.toExtendedJson)]
        ∨ item = .object [(second, c.toExtendedJson)] := List.mem_pair.1 listed
    obtain rfl | rfl := listed
    · apply Json.isReadable_singleton _ left.isReadable
    · apply Json.isReadable_singleton _ right.isReadable

end IsShown

/-- A document in the grammar has one member, whose value is read back. -/
theorem exists_member (h : IsStoreFilter isField d) (plain : Bson.membersHaveDouble d = false) :
  ∃ name b, d = [(name, b)] ∧ IsShown b
  := by
  induction h with
  | @join name left right _ _ _ onLeft onRight =>
    simp only [Bson.membersHaveDouble, Bson.hasDouble, Bson.itemsHaveDouble, Bool.or_false,
      Bool.or_eq_false_iff] at plain
    obtain ⟨first, b, rfl, left⟩ := onLeft plain.1
    obtain ⟨second, c, rfl, right⟩ := onRight plain.2
    exact ⟨name, _, rfl, left.join right first second⟩
  | @equal field b _ scalar =>
    simp only [Bson.membersHaveDouble, Bool.or_false] at plain
    exact ⟨field, b, rfl, .equal scalar plain⟩
  | @compare field name operator b _ known accepted =>
    simp only [Bson.membersHaveDouble, Bson.hasDouble, Bool.or_false] at plain
    exact ⟨field, _, rfl, .compare known accepted plain⟩

/-- A query in the grammar is readable and read back from its JSON. -/
theorem document?_toExtendedJson {q : Query} (h : IsStoreFilter isField q.document)
    (plain : Bson.membersHaveDouble q.document = false) :
  document? q.toExtendedJson = some (Bson.membersWithSortedOptions q.document)
    ∧ q.toExtendedJson.IsReadable
  := by
  obtain ⟨name, b, same, shown⟩ := exists_member h plain
  rw [toExtendedJson, same]
  constructor
  · change (member? b.toExtendedJson).map _ = _
    rw [shown.reads]
    rfl
  · apply Json.isReadable_singleton _ shown.isReadable

end Reading

/-- Queries with the same text are the same up to the order of options. -/
theorem text_eq_iff {isField : String → Prop} {q r : Query} (hq : IsStoreFilter isField q.document)
    (hr : IsStoreFilter isField r.document) (plain : Bson.membersHaveDouble q.document = false)
    (plain' : Bson.membersHaveDouble r.document = false) :
  q.text = r.text
    ↔ Bson.membersWithSortedOptions q.document = Bson.membersWithSortedOptions r.document
  := by
  obtain ⟨reads, isReadable⟩ := document?_toExtendedJson hq plain
  obtain ⟨reads', isReadable'⟩ := document?_toExtendedJson hr plain'
  constructor
  · intro same
    rw [← Option.some_inj, ← reads, ← reads', Json.eq_of_write_eq isReadable isReadable' same]
  · intro same
    have shown : q.toExtendedJson = r.toExtendedJson := by
      rw [toExtendedJson, toExtendedJson, Bson.toExtendedJson, Bson.toExtendedJson,
        ← Bson.extendedMembers_withSortedOptions, same, Bson.extendedMembers_withSortedOptions]
    rw [text, text, shown]

end Query

/-- The query of a filter is in the grammar of the store. -/
theorem Compiler.isStoreFilter_ofSettings {settings : Settings} {filter : Filter} {q : Query}
    (h : ((Compiler.ofSettings settings).compile filter).result = .ok q) :
  IsStoreFilter (fun _ => True) q.document
  := by
  obtain ⟨m, reads, rfl⟩ := condition_of_compile rfl h
  obtain ⟨accepted, -⟩ := forall_of_condition? Encoder.isScalar_bson reads
  rw [isStoreFilter_toQuery_iff accepted]
  apply accepted.mono
  exact fun _ _ _ _ => trivial

/-- Two queries without doubles have the same text exactly when they are the same apart from the
order of the options of regular expressions. -/
theorem text_eq_text_iff (settings settings' : Settings) (f g : Filter) (q r : Query)
    (accepts : ((Compiler.ofSettings settings).compile f).result = .ok q)
    (accepts' : ((Compiler.ofSettings settings').compile g).result = .ok r)
    (plain : (Bson.document q.document).hasDouble = false)
    (plain' : (Bson.document r.document).hasDouble = false) :
  q.text = r.text
    ↔ (Bson.document q.document).withSortedOptions = (Bson.document r.document).withSortedOptions
  := by
  have isFilter := Compiler.isStoreFilter_ofSettings accepts
  have isFilter' := Compiler.isStoreFilter_ofSettings accepts'
  rw [Bson.withSortedOptions, Bson.withSortedOptions, Bson.document.injEq]
  apply Query.text_eq_iff isFilter isFilter' plain plain'

/-- Fields that are named as what shows scalars, and options in another order. -/
theorem text_eq_text_options :
  let id : ObjectId := ⟨List.replicate 12 36, rfl⟩
  let filter (options : String) : Filter := ⟨.empty,
    .and ⟨.equal, .literal (.string "$date"), .literal (.objectId id)⟩
      ⟨.notEqual, .literal (.string "$oid"), .list [.string "$oid", .pattern ⟨"^x", options⟩]⟩⟩
  let query (options : String) : Query :=
    .and [.eq "$date" (.objectId id), .notIn "$oid" [.string "$oid", .regex ⟨"^x", options⟩]]
  ((Compiler.ofSettings .default).compile (filter "si")).result = .ok (query "si")
    ∧ ((Compiler.ofSettings ⟨8, "$oid"⟩).compile (filter "is")).result = .ok (query "is")
    ∧ (∀ options, (Bson.document (query options).document).hasDouble = false)
    ∧ (query "si").document ≠ (query "is").document ∧ (query "si").text = (query "is").text
  := by
  intro id filter query
  have accepts : ((Compiler.ofSettings .default).compile (filter "si")).result = .ok (query "si") :=
    rfl
  have accepts' : ((Compiler.ofSettings ⟨8, "$oid"⟩).compile (filter "is")).result
      = .ok (query "is") := rfl
  have sorted (options : String) : (Bson.document (query options).document).withSortedOptions
      = .document (query (Bson.sortedOptions options)).document := rfl
  have same : Bson.sortedOptions "si" = Bson.sortedOptions "is" := by
    apply Bson.sortedOptions_eq_iff.2
    decide
  refine ⟨accepts, accepts', fun _ => rfl, ?_, ?_⟩
  · simp [query, Query.and, Query.combine, Query.notIn, Query.operator]
  · rw [text_eq_text_iff _ _ _ _ _ _ accepts accepts' rfl rfl, sorted, sorted, same]

end FilterQuery
