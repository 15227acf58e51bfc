import FilterQuery.Proofs.Bson.DateTime
import FilterQuery.Proofs.Condition.Basic
import FilterQuery.Proofs.Text.Base64
import FilterQuery.Proofs.Value.RoundTrip

/-!
# Extended JSON read back

A scalar of the store that is no double is read back from relaxed Extended JSON, with the options of
a regular expression in ascending order.  It is readable, so it is read back from its text as well.
What JSON has no values for is an object that is told apart by the name of its member.
-/

namespace FilterQuery

namespace Bson

/-! ### Options in ascending order -/

/-- Options in ascending order ascend. -/
theorem pairwise_sortedOptions (options : String) :
  (sortedOptions options).toList.Pairwise fun a b => decide (a ≤ b)
  := by
  rw [sortedOptions, String.toList_ofList]
  apply List.pairwise_mergeSort
  · intro a b c
    simpa using Std.le_trans
  · intro a b
    simpa using Std.le_total

/-- Options in ascending order stay as they are. -/
theorem sortedOptions_sortedOptions (options : String) :
  sortedOptions (sortedOptions options) = sortedOptions options
  := by
  rw [sortedOptions, List.mergeSort_of_pairwise (pairwise_sortedOptions options),
    String.ofList_toList]

/-- Options in ascending order are the same when only their order was different. -/
theorem sortedOptions_eq_iff {options others : String} :
  sortedOptions options = sortedOptions others ↔ options.toList.Perm others.toList
  := by
  have perm (options : String) : (sortedOptions options).toList.Perm options.toList := by
    rw [sortedOptions, String.toList_ofList]
    apply List.mergeSort_perm
  constructor
  · intro same
    apply (perm options).symm.trans
    rw [same]
    apply perm
  · intro same
    rw [← String.toList_inj]
    apply List.Perm.eq_of_pairwise _ (pairwise_sortedOptions _) (pairwise_sortedOptions _)
    · apply (perm options).trans
      apply same.trans (perm others).symm
    · intro a b _ _ le ge
      exact Std.le_antisymm (of_decide_eq_true le) (of_decide_eq_true ge)

mutual

/-- A value with the options of all regular expressions in ascending order. -/
def withSortedOptions : Bson → Bson
  | .regex p => .regex { p with options := sortedOptions p.options }
  | .array items => .array (itemsWithSortedOptions items)
  | .document members => .document (membersWithSortedOptions members)
  | b => b

/-- Values with the options of all regular expressions in ascending order. -/
def itemsWithSortedOptions : List Bson → List Bson
  | [] => []
  | b :: items => b.withSortedOptions :: itemsWithSortedOptions items

/-- Named values with the options of all regular expressions in ascending order. -/
def membersWithSortedOptions : List (String × Bson) → List (String × Bson)
  | [] => []
  | (name, b) :: members => (name, b.withSortedOptions) :: membersWithSortedOptions members

end

mutual

/-- The order of options is not shown. -/
theorem toExtendedJson_withSortedOptions (b : Bson) :
  b.withSortedOptions.toExtendedJson = b.toExtendedJson
  := by
  match b with
  | .regex p =>
    rw [withSortedOptions, toExtendedJson, toExtendedJson, extendedRegex,
      sortedOptions_sortedOptions]
    rfl
  | .array items =>
    rw [withSortedOptions, toExtendedJson, toExtendedJson, extendedItems_withSortedOptions items]
  | .document members =>
    rw [withSortedOptions, toExtendedJson, toExtendedJson,
      extendedMembers_withSortedOptions members]
  | .int64 _ | .double _ | .string _ | .boolean _ | .binary _ _ | .objectId _ | .dateTime _
  | .null => rfl

theorem extendedItems_withSortedOptions (items : List Bson) :
  extendedItems (itemsWithSortedOptions items) = extendedItems items
  := by
  match items with
  | [] => rfl
  | b :: items =>
    rw [itemsWithSortedOptions, extendedItems, extendedItems, toExtendedJson_withSortedOptions b,
      extendedItems_withSortedOptions items]

theorem extendedMembers_withSortedOptions (members : List (String × Bson)) :
  extendedMembers (membersWithSortedOptions members) = extendedMembers members
  := by
  match members with
  | [] => rfl
  | (name, b) :: members =>
    rw [membersWithSortedOptions, extendedMembers, extendedMembers,
      toExtendedJson_withSortedOptions b, extendedMembers_withSortedOptions members]

end

theorem extendedItems_eq_map (items : List Bson) :
  extendedItems items = items.map toExtendedJson
  := by
  induction items with
  | nil => rfl
  | cons b items ih => rw [extendedItems, ih, List.map_cons]

theorem itemsWithSortedOptions_eq_map (items : List Bson) :
  itemsWithSortedOptions items = items.map withSortedOptions
  := by
  induction items with
  | nil => rfl
  | cons b items ih => rw [itemsWithSortedOptions, ih, List.map_cons]

/-! ### Doubles -/

mutual

/-- Whether there is a double in a value. -/
def hasDouble : Bson → Bool
  | .double _ => true
  | .array items => itemsHaveDouble items
  | .document members => membersHaveDouble members
  | _ => false

/-- Whether there is a double in one of some values. -/
def itemsHaveDouble : List Bson → Bool
  | [] => false
  | b :: items => b.hasDouble || itemsHaveDouble items

/-- Whether there is a double in one of some named values. -/
def membersHaveDouble : List (String × Bson) → Bool
  | [] => false
  | (_, b) :: members => b.hasDouble || membersHaveDouble members

end

theorem itemsHaveDouble_eq_false_iff {items : List Bson} :
  itemsHaveDouble items = false ↔ ∀ b ∈ items, b.hasDouble = false
  := by
  induction items with
  | nil => simp [itemsHaveDouble]
  | cons b items ih => simp [itemsHaveDouble, ih]

/-! ### Scalars -/

/-- The subtype of a code in hexadecimal digits. -/
def subtype? : String → Option BinarySubtype
  | "00" => some .generic
  | "04" => some .uuid
  | _ => none

/-- The identifier of a stored document that hexadecimal digits stand for. -/
def objectId? (s : String) : Option ObjectId :=
  (Text.bytesOfHex? s.toList).bind Identifier.ofBytes?

/-- The scalar that is shown as an object with a member of a given name. -/
def ofMember? : String → Json → Option Bson
  | "$oid", .string s => (objectId? s).map .objectId
  | "$date", shown => (millis? shown).map .dateTime
  | "$binary", .object [("base64", .string s), ("subType", .string code)] => do
    let bytes ← Text.bytesOfBase64? s.toList
    let subtype ← subtype? code
    some (.binary subtype bytes)
  | "$regularExpression", .object [("pattern", .string pattern), ("options", .string options)] =>
    some (.regex ⟨pattern, options⟩)
  | _, _ => none

/-- The scalar that is shown in JSON. -/
def scalar? : Json → Option Bson
  | .null => some .null
  | .bool b => some (.boolean b)
  | .int n => some (.int64 (Int64.ofInt n))
  | .string s => some (.string s)
  | .object [(name, j)] => ofMember? name j
  | _ => none

theorem subtype?_code (subtype : BinarySubtype) :
  subtype? (String.ofList (Text.hexOfByte subtype.code)) = some subtype
  := by
  cases subtype <;> decide

theorem objectId?_hex (id : ObjectId) :
  objectId? (String.ofList id.hex) = some id
  := by
  rw [objectId?, String.toList_ofList, Identifier.hex, Text.bytesOfHex?_hexOfBytes]
  apply Identifier.ofBytes?_bytes

/-- A scalar that is no double is read back from what is shown of it. -/
theorem scalar?_toExtendedJson {b : Bson} (scalar : b.isScalar) (plain : b.hasDouble = false) :
  scalar? b.toExtendedJson = some b.withSortedOptions
  := by
  cases b with
  | int64 n =>
    rw [toExtendedJson, scalar?, Int64.ofInt_toInt]
    rfl
  | double x => cases plain
  | string s => rfl
  | boolean b => rfl
  | binary subtype bytes =>
    change (do
      let bytes ← Text.bytesOfBase64? (String.ofList (Text.base64 bytes)).toList
      let subtype ← subtype? (String.ofList (Text.hexOfByte subtype.code))
      some (Bson.binary subtype bytes)) = _
    rw [String.toList_ofList, Text.bytesOfBase64?_base64, subtype?_code]
    rfl
  | objectId id =>
    change (objectId? (String.ofList id.hex)).map _ = _
    rw [objectId?_hex]
    rfl
  | dateTime millis =>
    obtain ⟨shown, same, read⟩ := millis?_shown millis
    rw [toExtendedJson, same]
    change (millis? shown).map _ = _
    rw [read]
    rfl
  | regex p => rfl
  | null => rfl
  | array items => cases scalar
  | document members => cases scalar

/-- What is shown of a scalar is readable. -/
theorem isReadable_toExtendedJson {b : Bson} (scalar : b.isScalar) (plain : b.hasDouble = false) :
  b.toExtendedJson.IsReadable
  := by
  cases b with
  | int64 n =>
    apply Json.IsReadable.int n.le_toInt
    have := n.toInt_lt
    omega
  | double x => cases plain
  | string s => exact .string s
  | boolean b => exact .bool b
  | binary subtype bytes =>
    apply Json.isReadable_singleton
    apply Json.isReadable_pair (by decide)
    · exact .string _
    · exact .string _
  | objectId id => exact Json.isReadable_singleton _ (.string _)
  | dateTime millis =>
    apply Json.isReadable_singleton
    split
    · exact .string _
    · exact Json.isReadable_singleton _ (.string _)
  | regex p =>
    apply Json.isReadable_singleton
    apply Json.isReadable_pair (by decide)
    · exact .string _
    · exact .string _
  | null => exact .null
  | array items => cases scalar
  | document members => cases scalar

end Bson

end FilterQuery
