import FilterQuery.Proofs.Filter.Look
import FilterQuery.Proofs.Json.Readable
import Mathlib.Logic.Relation

/-!
# The spelling of kinds

The case of ASCII letters in the names of kinds is not seen when a filter is read.  A change of
spelling is made somewhere in the JSON value of a filter: it replaces a field of a record, in that
a field of a record, and so on down to the name of a known kind.  `Role` says what a value is in a
filter and so where such names are; the records on the way are objects or arrays.  One change keeps
what the look at the kinds finds and what is decoded, so any number of them do.
-/

namespace FilterQuery

/-! ### Names of kinds -/

/-- Whether two characters are the same, or a capital letter of ASCII and its small letter. -/
def SameLetter (c d : Char) : Prop :=
  c = d ∨ (c.isUpper ∧ d.toNat = c.toNat + 32) ∨ (d.isUpper ∧ c.toNat = d.toNat + 32)

/-- Whether two texts have the same letters one by one. -/
def SpelledAlike (s t : String) : Prop := List.Forall₂ SameLetter s.toList t.toList

theorem isUpper_iff {c : Char} :
  c.isUpper ↔ 65 ≤ c.toNat ∧ c.toNat ≤ 90
  := by
  change decide ('A'.val ≤ c.val ∧ c.val ≤ 'Z'.val) = true ↔ _
  rw [decide_eq_true_iff, UInt32.le_iff_toNat_le, UInt32.le_iff_toNat_le]
  rfl

theorem toNat_toLower (c : Char) :
  c.toLower.toNat = if c.isUpper then c.toNat + 32 else c.toNat
  := by
  unfold Char.toLower
  split
  · next capital =>
    have upper : c.isUpper := isUpper_iff.2 capital
    have bounds := isUpper_iff.1 upper
    have shifted : (c.val + ('a'.val - 'A'.val)).toNat = c.toNat + 32 := by
      rw [UInt32.toNat_add]
      change (c.toNat + 32) % 2 ^ 32 = _
      omega
    rw [if_pos upper]
    exact shifted
  · next other =>
    rw [if_neg]
    intro upper
    exact other (isUpper_iff.1 upper)

theorem toLower_eq_toLower_iff {c d : Char} :
  c.toLower = d.toLower ↔ SameLetter c d
  := by
  rw [← Char.toNat_inj, toNat_toLower, toNat_toLower, SameLetter, ← Char.toNat_inj]
  simp only [isUpper_iff]
  split <;> split <;> omega

theorem sameIgnoringCase_iff {s t : String} :
  sameIgnoringCase s t ↔ SpelledAlike s t
  := by
  rw [sameIgnoringCase, beq_iff_eq, SpelledAlike, ← List.forall₂_eq_eq_eq,
    List.forall₂_map_left_iff, List.forall₂_map_right_iff]
  simp only [toLower_eq_toLower_iff]

namespace ExprKind

variable {s t : String} {kind other : ExprKind}

/-- The names of two kinds are not spelled alike. -/
theorem eq_of_spelledAlike (h : SpelledAlike kind.name s) (h' : SpelledAlike other.name s) :
  kind = other
  := by
  rw [← sameIgnoringCase_iff, sameIgnoringCase, beq_iff_eq] at h h'
  have same : sameIgnoringCase kind.name other.name := by
    rw [sameIgnoringCase, beq_iff_eq, h, h']
  revert same
  cases kind <;> cases other <;> decide

/-- A name is read as a kind exactly when it is spelled as the name of the kind. -/
theorem ofName_eq_ok_iff :
  ofName s = .ok kind ↔ SpelledAlike kind.name s
  := by
  have alike {kind : ExprKind} (found : ofName s = .ok kind) : SpelledAlike kind.name s := by
    unfold ofName at found
    split at found
    · next first isFirst =>
      cases found
      have same := List.find?_some isFirst
      apply sameIgnoringCase_iff.1 same
    · cases found
  constructor
  · apply alike
  · intro h
    cases found : ofName s with
    | ok first => rw [eq_of_spelledAlike (alike found) h]
    | error fault =>
      rw [ofName_eq_error_iff] at found
      rw [← sameIgnoringCase_iff, found.2 kind] at h
      cases h

theorem ofJson?_string_eq_some_iff :
  ofJson? (.string s) = some kind ↔ SpelledAlike kind.name s
  := by
  rw [← ofName_eq_ok_iff]
  change (ofName s).toOption = some kind ↔ _
  cases ofName s <;> simp [Except.toOption]

/-- A kind is read from every spelling of a name it is read from. -/
theorem ofName_of_spelledAlike (known : ofName s = .ok kind) (alike : SpelledAlike s t) :
  ofName t = .ok kind
  := by
  rw [ofName_eq_ok_iff, ← sameIgnoringCase_iff, sameIgnoringCase, beq_iff_eq] at known ⊢
  rw [← sameIgnoringCase_iff, sameIgnoringCase, beq_iff_eq] at alike
  rw [known, alike]

end ExprKind

/-! ### Changes of spelling -/

namespace Json

/-- What a JSON value is in a filter. -/
inductive Role where
  | filter
  | expression
  | operand
  | kind

/-- The fields of a record, in order. -/
def Role.fields : Role → List String
  | .filter => Filter.fields
  | .expression => Expression.fields
  | .operand => []
  | .kind => []

/-- What a field is, if there may be names of kinds in it. -/
def Role.inner? : Role → String → Option Role
  | .filter, "root" => some .expression
  | .expression, "kind" => some .kind
  | .expression, "left" => some .operand
  | .expression, "right" => some .operand
  | .operand, "Expression" => some .expression
  | _, _ => none

/-- A value becomes another when a field of it is replaced, in an object or in an array. -/
inductive Replaces (fields : List String) (name : String) (v w : Json) : Json → Json → Prop
  | member (before after : List (String × Json)) :
    Replaces fields name v w (.object (before ++ (name, v) :: after))
      (.object (before ++ (name, w) :: after))
  | item (before after : List Json) (place : fields[before.length]? = some name) :
    Replaces fields name v w (.array (before ++ v :: after)) (.array (before ++ w :: after))

/-- A value becomes another when the name of one known kind in it is spelled differently. -/
inductive Respells : Role → Json → Json → Prop
  | kind {s t : String} {kind : ExprKind} (known : ExprKind.ofName s = .ok kind)
      (alike : SpelledAlike s t) : Respells .kind (.string s) (.string t)
  | field {role inner : Role} {name : String} {v w j k : Json}
      (isField : role.inner? name = some inner) (replaces : Replaces role.fields name v w j k)
      (respells : Respells inner v w) : Respells role j k

/-! ### One field that is replaced -/

section Replaces

variable {α : Type} {fields : List String} {name : String} {v w j k : Json}

/-- What is made of a member stays the same if it does where the member is replaced. -/
theorem bind_lookup_replace {key : String} {read : Json → Option α}
    (before after : List (String × Json)) (h : key = name → read v = read w) :
  (lookup key (before ++ (name, v) :: after)).bind read
    = (lookup key (before ++ (name, w) :: after)).bind read
  := by
  induction before with
  | nil =>
    rw [List.nil_append, List.nil_append, lookup, lookup]
    split
    · next same => apply h same.symm
    · rfl
  | cons member before ih =>
    obtain ⟨other, value⟩ := member
    rw [List.cons_append, List.cons_append, lookup, lookup]
    split
    · rfl
    · apply ih

/-- What is made of an item stays the same if it does where the item is replaced. -/
theorem bind_getElem?_replace {i : Nat} {read : Json → Option α} (before after : List Json)
    (h : i = before.length → read v = read w) :
  ((before ++ v :: after)[i]?).bind read = ((before ++ w :: after)[i]?).bind read
  := by
  by_cases here : i = before.length
  · cases here
    simp [h rfl]
  · simp only [List.getElem?_append, List.getElem?_cons]
    split
    · rfl
    · rw [if_neg (by omega), if_neg (by omega)]

theorem itemsNesting_append (before after : List Json) :
  itemsNesting (before ++ after) = max (itemsNesting before) (itemsNesting after)
  := by
  induction before with
  | nil => rw [List.nil_append, itemsNesting, Nat.zero_max]
  | cons item before ih => rw [List.cons_append, itemsNesting, itemsNesting, ih, Nat.max_assoc]

theorem membersNesting_append (before after : List (String × Json)) :
  membersNesting (before ++ after) = max (membersNesting before) (membersNesting after)
  := by
  induction before with
  | nil => rw [List.nil_append, membersNesting, Nat.zero_max]
  | cons member before ih =>
    rw [List.cons_append, membersNesting, membersNesting, ih, Nat.max_assoc]

namespace Replaces

theorem bind_get? (h : Replaces fields name v w j k) (key : String) (read : Json → Option α)
    (same : key = name → read v = read w) :
  (j.get? key).bind read = (k.get? key).bind read
  := by
  cases h with
  | member before after => apply bind_lookup_replace before after same
  | item => rfl

theorem bind_field? (h : Replaces fields name v w j k) (key : String) (read : Json → Option α)
    (same : key = name → read v = read w) :
  (j.field? fields key).bind read = (k.field? fields key).bind read
  := by
  cases h with
  | member before after => apply bind_lookup_replace before after same
  | item before after place =>
    have length : (before ++ v :: after).length = (before ++ w :: after).length := by simp
    rw [Json.field?, Json.field?, length]
    split
    · apply bind_getElem?_replace
      intro here
      apply same
      have inside : fields.idxOf key < fields.length := by
        rw [here]
        exact (List.getElem?_eq_some_iff.1 place).1
      rw [← here, List.getElem?_eq_getElem inside, List.getElem_idxOf] at place
      exact Option.some.inj place
    · rfl

theorem isReadable (h : Replaces fields name v w j k) (inner : v.IsReadable → w.IsReadable)
    (readable : j.IsReadable) :
  k.IsReadable
  := by
  cases h with
  | member before after =>
    cases readable with
    | object distinct members =>
      apply IsReadable.object
      · simpa using distinct
      · simp only [List.forall_mem_append, List.forall_mem_cons] at members ⊢
        exact ⟨members.1, inner members.2.1, members.2.2⟩
  | item before after place =>
    cases readable with
    | array items =>
      apply IsReadable.array
      simp only [List.forall_mem_append, List.forall_mem_cons] at items ⊢
      exact ⟨items.1, inner items.2.1, items.2.2⟩

theorem nesting_eq (h : Replaces fields name v w j k) (inner : v.nesting = w.nesting) :
  j.nesting = k.nesting
  := by
  cases h with
  | member before after =>
    rw [nesting, nesting, membersNesting_append, membersNesting_append, membersNesting,
      membersNesting, inner]
  | item before after place =>
    rw [nesting, nesting, itemsNesting_append, itemsNesting_append, itemsNesting, itemsNesting,
      inner]

end Replaces

end Replaces

/-! ### What is decoded -/

section Decoded

variable {name : String} {v w j k : Json}

/-- A filter is decoded from its fields one by one. -/
theorem ofJson?_filter_eq (j : Json) :
  Filter.ofJson? j
    = ((j.field? Filter.fields "paths").bind FieldArena.ofJson?).bind fun paths =>
        ((j.field? Filter.fields "root").bind Expression.ofJson?).bind fun root =>
          some ⟨paths, root⟩
  := by
  simp only [Filter.ofJson?, Option.bind_eq_bind, Option.bind_assoc]

/-- An expression is decoded from its fields one by one. -/
theorem ofJson?_expression_eq (j : Json) :
  Expression.ofJson? j
    = ((j.field? Expression.fields "kind").bind ExprKind.ofJson?).bind fun kind =>
        ((j.field? Expression.fields "left").bind Operand.ofJson?).bind fun left =>
          ((j.field? Expression.fields "right").bind Operand.ofJson?).bind fun right =>
            some ⟨kind, left, right⟩
  := by
  simp only [Expression.ofJson?, Option.bind_eq_bind, Option.bind_assoc]

theorem ofJson?_filter_eq_of_replaces (replaces : Replaces Filter.fields "root" v w j k)
    (root : Expression.ofJson? v = Expression.ofJson? w) :
  Filter.ofJson? j = Filter.ofJson? k
  := by
  rw [ofJson?_filter_eq, ofJson?_filter_eq,
    replaces.bind_field? "paths" FieldArena.ofJson? (by simp),
    replaces.bind_field? "root" Expression.ofJson? fun _ => root]

theorem ofJson?_expression_eq_of_replaces (replaces : Replaces Expression.fields name v w j k)
    (kind : name = "kind" → ExprKind.ofJson? v = ExprKind.ofJson? w)
    (operand : name = "left" ∨ name = "right" → Operand.ofJson? v = Operand.ofJson? w) :
  Expression.ofJson? j = Expression.ofJson? k
  := by
  rw [ofJson?_expression_eq, ofJson?_expression_eq,
    replaces.bind_field? "kind" ExprKind.ofJson? fun here => kind here.symm,
    replaces.bind_field? "left" Operand.ofJson? fun here => operand (.inl here.symm),
    replaces.bind_field? "right" Operand.ofJson? fun here => operand (.inr here.symm)]

/-- An operand that is decoded has no other member than the one that names its variant. -/
theorem ofJson?_operand_eq_none {before after : List (String × Json)} (payload : Json)
    (h : before ≠ [] ∨ after ≠ []) :
  Operand.ofJson? (.object (before ++ (name, payload) :: after)) = none
  := by
  rw [Option.eq_none_iff_forall_ne_some]
  intro o decoded
  obtain ⟨only, value, same⟩ := Operand.exists_of_ofJson? decoded
  have length := congrArg List.length (Json.object.inj same)
  rw [List.length_append, List.length_cons, List.length_singleton] at length
  rcases h with more | more
  · have := List.length_pos_iff.2 more
    omega
  · have := List.length_pos_iff.2 more
    omega

theorem ofJson?_operand_eq_of_replaces (replaces : Replaces [] "Expression" v w j k)
    (same : Expression.ofJson? v = Expression.ofJson? w) :
  Operand.ofJson? j = Operand.ofJson? k
  := by
  cases replaces with
  | item before after place => cases place
  | member before after =>
    by_cases alone : before = [] ∧ after = []
    · rw [alone.1, alone.2, List.nil_append, List.nil_append, Operand.ofJson?_payload,
        Operand.ofJson?_payload, same]
    · rw [Decidable.not_and_iff_or_not] at alone
      rw [ofJson?_operand_eq_none v alone, ofJson?_operand_eq_none w alone]

end Decoded

/-! ### One change of spelling -/

/-- Whether two values are decoded as the same in a role. -/
def Role.DecodesAlike : Role → Json → Json → Prop
  | .filter, j, k => Filter.ofJson? j = Filter.ofJson? k
  | .expression, j, k => Expression.ofJson? j = Expression.ofJson? k
  | .operand, j, k => Operand.ofJson? j = Operand.ofJson? k
  | .kind, j, k => ExprKind.ofJson? j = ExprKind.ofJson? k

/-- The fault of a string that is the name of no kind. -/
def unknownName? : Json → Option UnknownKind
  | .string name =>
    match ExprKind.ofName name with
    | .error fault => some fault
    | .ok _ => none
  | _ => none

/-- What the look at the kinds finds in a value in its role. -/
def Role.unknownKind? : Role → Json → Option UnknownKind
  | .filter, j => Filter.unknownKind? j
  | .expression, j => j.unknownKind?
  | .operand, j => (j.get? "Expression").bind Json.unknownKind?
  | .kind, j => j.unknownName?

theorem unknownKindHere?_eq (node : Json) :
  node.unknownKindHere? = (node.get? "kind").bind unknownName?
  := by
  rw [unknownKindHere?]
  cases node.get? "kind" with
  | none => rfl
  | some j => cases j <;> rfl

theorem bind_nestedNode? (side : String) (node : Json) :
  (node.nestedNode? side).bind Json.unknownKind?
    = (node.get? side).bind (Role.unknownKind? .operand)
  := by
  rw [nestedNode?, Option.bind_assoc]
  rfl

theorem unknownKind?_eq_of_replaces {name : String} {v w j k : Json}
    (replaces : Replaces Expression.fields name v w j k)
    (kind : name = "kind" → v.unknownName? = w.unknownName?)
    (operand : name = "left" ∨ name = "right" →
      Role.unknownKind? .operand v = Role.unknownKind? .operand w) :
  j.unknownKind? = k.unknownKind?
  := by
  rw [Json.unknownKind?_eq, Json.unknownKind?_eq, unknownKindHere?_eq, unknownKindHere?_eq,
    replaces.bind_get? "kind" unknownName? fun here => kind here.symm]
  simp only [bind_nestedNode?]
  rw [replaces.bind_get? "right" _ fun here => operand (.inr here.symm),
    replaces.bind_get? "left" _ fun here => operand (.inl here.symm)]

namespace Respells

variable {role : Role} {j k : Json}

/-- What is decoded does not change with the spelling of a kind. -/
theorem decodesAlike (h : Respells role j k) :
  role.DecodesAlike j k
  := by
  induction h with
  | kind known alike =>
    have known' := ExprKind.ofName_of_spelledAlike known alike
    change (ExprKind.ofName _).toOption = (ExprKind.ofName _).toOption
    rw [known, known']
  | @field role inner name v w j k isField replaces _ same =>
    unfold Role.inner? at isField
    split at isField
    case h_1 =>
      cases isField
      apply ofJson?_filter_eq_of_replaces replaces same
    case h_2 =>
      cases isField
      apply ofJson?_expression_eq_of_replaces replaces (fun _ => same) (by simp)
    case h_3 | h_4 =>
      cases isField
      apply ofJson?_expression_eq_of_replaces replaces (by simp) fun _ => same
    case h_5 =>
      cases isField
      apply ofJson?_operand_eq_of_replaces replaces same
    case h_6 => cases isField

/-- What the look at the kinds finds does not change with the spelling of a kind. -/
theorem unknownKind?_eq (h : Respells role j k) :
  role.unknownKind? j = role.unknownKind? k
  := by
  induction h with
  | kind known alike =>
    have known' := ExprKind.ofName_of_spelledAlike known alike
    rw [Role.unknownKind?, Role.unknownKind?, unknownName?, unknownName?, known, known']
  | @field role inner name v w j k isField replaces _ same =>
    unfold Role.inner? at isField
    split at isField
    case h_1 =>
      cases isField
      apply replaces.bind_get? _ _ fun _ => same
    case h_2 =>
      cases isField
      apply unknownKind?_eq_of_replaces replaces (fun _ => same) (by simp)
    case h_3 | h_4 =>
      cases isField
      apply unknownKind?_eq_of_replaces replaces (by simp) fun _ => same
    case h_5 =>
      cases isField
      apply replaces.bind_get? _ _ fun _ => same
    case h_6 => cases isField

theorem isReadable (h : Respells role j k) (readable : j.IsReadable) :
  k.IsReadable
  := by
  induction h with
  | kind => exact .string _
  | field _ replaces _ inner => apply replaces.isReadable inner readable

theorem nesting_eq (h : Respells role j k) :
  j.nesting = k.nesting
  := by
  induction h with
  | kind => rfl
  | field _ replaces _ inner => apply replaces.nesting_eq inner

end Respells

end Json

/-! ### Filters in another spelling -/

/-- The kind of an expression that is decoded is spelled as its name. -/
theorem Expression.kind_eq_iff {node : Json} {e : Expression} {s : String}
    (h : Expression.ofJson? node = some e)
    (named : node.field? Expression.fields "kind" = some (.string s)) (kind : ExprKind) :
  e.kind = kind ↔ SpelledAlike kind.name s
  := by
  obtain ⟨⟨name, isName, known⟩, -⟩ := Expression.ofJson?_eq_some_iff.1 h
  cases isName.symm.trans named
  rw [ExprKind.ofName_eq_ok_iff] at known
  constructor
  · rintro rfl
    exact known
  · apply ExprKind.eq_of_spelledAlike known

/-- The kind of a node is known when it is spelled as the name of a kind. -/
theorem Json.unknownKindHere?_eq_none_of_string {node : Json} {s : String}
    (named : node.get? "kind" = some (.string s)) :
  node.unknownKindHere? = none ↔ ∃ kind : ExprKind, SpelledAlike kind.name s
  := by
  simp only [unknownKindHere?_eq, named, Option.bind_some, unknownName?,
    ← ExprKind.ofName_eq_ok_iff]
  cases ExprKind.ofName s <;> simp

namespace Filter

/-- The JSON values of two filters, or of what was meant for one, that are the same but for the
spelling of known kinds. -/
def KindsRespelled : Json → Json → Prop := Relation.ReflTransGen (Json.Respells .filter)

namespace KindsRespelled

variable {j k : Json}

theorem ofJson_eq (h : KindsRespelled j k) :
  ofJson j = ofJson k
  := by
  induction h with
  | refl => rfl
  | @tail j k _ change same =>
    have decoded : ofJson? j = ofJson? k := change.decodesAlike
    have unknown : unknownKind? j = unknownKind? k := change.unknownKind?_eq
    rw [same, ofJson, ofJson, decoded, unknown]

theorem isReadable (h : KindsRespelled j k) (readable : j.IsReadable) :
  k.IsReadable
  := by
  induction h with
  | refl => exact readable
  | tail _ change readable => apply change.isReadable readable

theorem nesting_eq (h : KindsRespelled j k) :
  j.nesting = k.nesting
  := by
  induction h with
  | refl => rfl
  | tail _ change same => exact same.trans change.nesting_eq

end KindsRespelled

/-- The text of a readable value is read as the value is, unless it is nested too deep. -/
theorem read_write_of_isReadable {j : Json} (readable : j.IsReadable) :
  read j.write
    = if j.nesting ≤ Json.maxNesting then ofJson j else Traced.fail (.malformed .notJson)
  := by
  rw [read, Json.read?_write readable]
  by_cases shallow : j.nesting ≤ Json.maxNesting
  · rw [if_pos shallow, if_pos shallow]
  · rw [if_neg shallow, if_neg shallow]

/-- Two texts are read in the same way, with the same filter or error and the same events, if their
values differ only in how known kinds are spelled.  A kind is decoded from a string, and let pass by
the look at the kinds, exactly when the string is its name letter by letter, in whatever case of
ASCII; and a string is so the name of at most one kind. -/
theorem read_respelled :
  (∀ j k, KindsRespelled j k →
      (∀ s t, Json.read? s = some j → Json.read? t = some k → read s = read t)
        ∧ (j.IsReadable → read j.write = read k.write))
    ∧ ∀ (s : String) (kind : ExprKind),
      (ExprKind.ofJson? (.string s) = some kind ↔ SpelledAlike kind.name s)
        ∧ (ExprKind.ofName s = .ok kind ↔ SpelledAlike kind.name s)
        ∧ (∀ other : ExprKind, SpelledAlike kind.name s → SpelledAlike other.name s →
          kind = other)
        ∧ (∀ node e, Expression.ofJson? node = some e →
          node.field? Expression.fields "kind" = some (.string s) →
          (e.kind = kind ↔ SpelledAlike kind.name s))
        ∧ ∀ node : Json, node.get? "kind" = some (.string s) →
          (node.unknownKindHere? = none ↔ ∃ known : ExprKind, SpelledAlike known.name s)
  := by
  constructor
  · intro j k respelled
    constructor
    · intro s t isText isText'
      rw [read, read, isText, isText']
      apply respelled.ofJson_eq
    · intro readable
      rw [read_write_of_isReadable readable,
        read_write_of_isReadable (respelled.isReadable readable), respelled.ofJson_eq,
        respelled.nesting_eq]
  · intro s kind
    refine ⟨ExprKind.ofJson?_string_eq_some_iff, ExprKind.ofName_eq_ok_iff, ?_, ?_, ?_⟩
    · intro other
      apply ExprKind.eq_of_spelledAlike
    · intro node e decoded named
      apply Expression.kind_eq_iff decoded named
    · intro node
      apply Json.unknownKindHere?_eq_none_of_string

/-- A kind in an array is spelled differently, beside a name that only looks like that of a kind. -/
theorem read_respelled_mixed :
  KindsRespelled (mixed "EQUAL" "LeſsThan") (mixed "eQuaL" "LeſsThan")
    ∧ read (mixed "EQUAL" "LeſsThan").write = read (mixed "eQuaL" "LeſsThan").write
    ∧ (read (mixed "eQuaL" "LeſsThan").write).result
      = .error (.unsupportedExpression "LeſsThan")
  := by
  have isReadable (left : String) : (mixed left "LeſsThan").IsReadable :=
    (Json.isReadable_of_read? (read?_write_mixed left "LeſsThan")).1
  have respelled : KindsRespelled (mixed "EQUAL" "LeſsThan") (mixed "eQuaL" "LeſsThan") := by
    apply Relation.ReflTransGen.single
    have known : ExprKind.ofName "EQUAL" = .ok .equal := rfl
    -- From the root to its left operand, to the expression in it, and to the first of its items.
    apply Json.Respells.field rfl (.member [_] [_])
    apply Json.Respells.field rfl (.member [_, _, _] [])
    apply Json.Respells.field rfl (.member [] [])
    apply Json.Respells.field rfl (.item [] _ rfl)
    apply Json.Respells.kind known (sameIgnoringCase_iff.1 rfl)
  have leaf : (leafObject "LeſsThan").unknownKind? = some ⟨"LeſsThan"⟩ := by
    rw [Json.unknownKind?_eq]
    rfl
  have unknown : unknownKind? (mixed "eQuaL" "LeſsThan") = some ⟨"LeſsThan"⟩ := by
    change Json.unknownKind? _ = _
    rw [Json.unknownKind?_eq]
    change none.or (((leafObject "LeſsThan").unknownKind?).or _) = _
    rw [leaf]
    rfl
  refine ⟨respelled, (read_respelled.1 _ _ respelled).2 (isReadable _), ?_⟩
  rw [result_read (read?_write_mixed _ _), result_ofJson_of_unknown unknown]
  rfl

end Filter

end FilterQuery
