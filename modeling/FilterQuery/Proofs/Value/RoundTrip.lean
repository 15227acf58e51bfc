import FilterQuery.Proofs.Calendar.RoundTrip
import FilterQuery.Proofs.Json.RoundTrip
import FilterQuery.Value.Json

/-!
# Values of JSON read back

The JSON value of a `Value` is decoded as it, and it is readable, unless it holds a double that is
not finite.
-/

namespace FilterQuery

/-- Items that are decoded one by one, up to a change of each. -/
theorem mapM_map_eq_some_map {α β γ : Type} {encode : α → β} {decode? : β → Option γ}
    {change : α → γ} {l : List α} (h : ∀ a ∈ l, decode? (encode a) = some (change a)) :
  (l.map encode).mapM decode? = some (l.map change)
  := by
  induction l with
  | nil => rfl
  | cons a l ih =>
    rw [List.map_cons, List.mapM_cons, h a List.mem_cons_self,
      ih fun b hb => h b (List.mem_cons_of_mem _ hb)]
    rfl

/-- Items that are decoded one by one. -/
theorem mapM_map_eq_some {α β : Type} {encode : α → β} {decode? : β → Option α} {l : List α}
    (h : ∀ a ∈ l, decode? (encode a) = some a) :
  (l.map encode).mapM decode? = some l
  := by
  rw [mapM_map_eq_some_map h, List.map_id']

/-! ### Identifiers -/

theorem length_hexOfBytes (bytes : List UInt8) :
  (Text.hexOfBytes bytes).length = 2 * bytes.length
  := by
  induction bytes with
  | nil => rfl
  | cons b bytes ih =>
    rw [Text.hexOfBytes, List.flatMap_cons, List.length_append, ← Text.hexOfBytes, ih,
      List.length_cons]
    simp [Text.hexOfByte]
    omega

/-- The digits of bytes are hexadecimal. -/
theorem exists_of_mem_hexOfBytes {bytes : List UInt8} {c : Char}
    (h : c ∈ Text.hexOfBytes bytes) :
  ∃ n < 16, c = Text.hexDigit n
  := by
  obtain ⟨b, -, hc⟩ := List.mem_flatMap.1 h
  have bound := b.toNat_lt
  rw [Text.hexOfByte, List.mem_pair] at hc
  rcases hc with high | low
  · exact ⟨b.toNat / 16, by omega, high⟩
  · exact ⟨b.toNat % 16, by omega, low⟩

namespace Uuid

/-- The groups of digits. -/
def groups (id : Uuid) : List (List Char) :=
  [id.hex.take 8, (id.hex.drop 8).take 4, (id.hex.drop 12).take 4, (id.hex.drop 16).take 4,
    id.hex.drop 20]

theorem write_eq_intercalate (id : Uuid) :
  id.write = ['-'].intercalate id.groups
  := by
  simp [write, groups, List.intercalate]

theorem length_hex (id : Uuid) :
  id.hex.length = 32
  := by
  rw [Identifier.hex, length_hexOfBytes, id.length_bytes]

theorem flatten_groups (id : Uuid) :
  id.groups.flatten = id.hex
  := by
  have join (m n : Nat) : (id.hex.drop m).take n ++ id.hex.drop (m + n) = id.hex.drop m := by
    rw [← List.drop_drop, List.take_append_drop]
  simp only [groups, List.flatten_cons, List.flatten_nil, List.append_nil]
  rw [join 16 4, join 12 4, join 8 4, List.take_append_drop]

theorem map_length_groups (id : Uuid) :
  id.groups.map List.length = [8, 4, 4, 4, 12]
  := by
  simp [groups, id.length_hex]

theorem ofDigits?_hex (id : Uuid) :
  ofDigits? id.hex = some id
  := by
  rw [ofDigits?, Identifier.hex, Text.bytesOfHex?_hexOfBytes, Option.bind_some,
    Identifier.ofBytes?_bytes]

theorem not_mem_groups (id : Uuid) :
  ∀ group ∈ id.groups, '-' ∉ group
  := by
  intro group h hyphen
  have digit : '-' ∈ id.hex := by
    rw [← id.flatten_groups]
    apply List.mem_flatten_of_mem h hyphen
  obtain ⟨n, small, same⟩ := exists_of_mem_hexOfBytes digit
  revert n
  decide

theorem ofGroups?_write (id : Uuid) :
  ofGroups? id.write = some id
  := by
  have split : id.write.splitOn '-' = id.groups := by
    rw [write_eq_intercalate]
    apply List.splitOn_intercalate
    · apply id.not_mem_groups
    · simp [groups]
  rw [ofGroups?, split, if_pos id.map_length_groups, flatten_groups, ofDigits?_hex]

/-- A written identifier is read as the identifier. -/
theorem read?_write (id : Uuid) :
  read? id.write = some id
  := by
  have length : id.write.length = 36 := by
    simp [write, id.length_hex]
  obtain ⟨c, others, digits⟩ : ∃ c others, id.hex = c :: others := by
    apply List.exists_cons_of_length_pos
    rw [id.length_hex]
    decide
  obtain ⟨rest, shape⟩ : ∃ rest, id.write = c :: rest := by
    rw [write, digits]
    exact ⟨_, rfl⟩
  have first : c ∈ id.hex := by
    rw [digits]
    apply List.mem_cons_self
  obtain ⟨n, small, same⟩ := exists_of_mem_hexOfBytes first
  have noPrefix : ∀ n < 16, Text.hexDigit n ≠ '{' ∧ (Text.hexDigit n).toLower ≠ 'u' := by decide
  obtain ⟨notBrace, notUrn⟩ := noPrefix n small
  rw [← same] at notBrace notUrn
  have noBrace : ¬ (id.write.head? = some '{' ∧ id.write.getLast? = some '}') := by
    rw [shape, List.head?_cons, Option.some.injEq]
    exact fun h => notBrace h.1
  have noUrn : (id.write.take 9).map Char.toLower ≠ "urn:uuid:".toList := by
    rw [shape, List.take_succ_cons, List.map_cons]
    intro h
    apply notUrn (List.cons.inj h).1
  rw [read?, if_neg (by rw [length]; decide), if_neg noBrace, if_neg noUrn, ofGroups?_write]

end Uuid

/-! ### Bytes -/

theorem Json.natBelow?_ofNat {bound n : Nat} (h : n < bound) :
  (Json.ofNat n).natBelow? bound = some n
  := by
  have within : (0 : Int) ≤ n ∧ (n : Int) ≤ bound - 1 := by omega
  rw [Json.ofNat, Json.natBelow?, Json.intWithin?, if_pos within, Option.map_some,
    Int.toNat_natCast]

theorem Json.isReadable_ofNat {n : Nat} (h : n < UInt64.size) :
  (Json.ofNat n).IsReadable
  := by
  apply Json.IsReadable.int
  · omega
  · exact_mod_cast h

/-- An array is readable if its items are. -/
theorem Json.isReadable_map {α : Type} {encode : α → Json} {l : List α}
    (h : ∀ a ∈ l, (encode a).IsReadable) :
  (Json.array (l.map encode)).IsReadable
  := by
  apply Json.IsReadable.array
  intro item hi
  obtain ⟨a, ha, rfl⟩ := List.mem_map.1 hi
  apply h a ha

theorem Json.bytes?_ofBytes (bytes : List UInt8) :
  (Json.ofBytes bytes).bytes? = some bytes
  := by
  rw [Json.ofBytes, Json.bytes?, Json.array?]
  apply mapM_map_eq_some
  intro b _
  rw [Json.byte?, Json.natBelow?_ofNat b.toNat_lt, Option.map_some, UInt8.ofNat_toNat]

theorem Json.isReadable_ofBytes (bytes : List UInt8) :
  (Json.ofBytes bytes).IsReadable
  := by
  apply Json.isReadable_map
  intro b _
  apply Json.isReadable_ofNat
  apply Nat.lt_trans b.toNat_lt (by decide)

/-- An object with one member is readable if the member is. -/
theorem Json.isReadable_singleton {j : Json} (name : String) (h : j.IsReadable) :
  (Json.object [(name, j)]).IsReadable
  := by
  apply Json.IsReadable.object
  · simp
  · simpa using h

/-- An object with two members of different names is readable if both members are. -/
theorem Json.isReadable_pair {j k : Json} {name other : String} (distinct : name ≠ other)
    (first : j.IsReadable) (second : k.IsReadable) :
  (Json.object [(name, j), (other, k)]).IsReadable
  := by
  apply Json.IsReadable.object
  · simpa using distinct
  · simpa using ⟨first, second⟩

/-! ### Values -/

namespace Value

/-- Whether a value is no double or a finite one. -/
def IsFinite : Value → Prop
  | .float x => x.isFinite
  | _ => True

instance (v : Value) : Decidable v.IsFinite :=
  match v with
  | .float x => inferInstanceAs (Decidable (x.isFinite = true))
  | .int _ | .uint _ | .string _ | .boolean _ | .uuid _ | .objectId _ | .bytes _ | .date _
  | .timestamp _ | .pattern _ | .null => .isTrue trivial

theorem ofJson?_object (name : String) (payload : Json) :
  ofJson? (.object [(name, payload)]) = ofVariant? name (some payload)
  := rfl

theorem int64?_toInt (n : Int64) :
  int64? (.int n.toInt) = some n
  := by
  have within : Int64.minValue.toInt ≤ n.toInt ∧ n.toInt ≤ Int64.maxValue.toInt :=
    ⟨n.minValue_le_toInt, n.toInt_le⟩
  rw [int64?, Json.intWithin?, if_pos within, Option.map_some, Int64.ofInt_toInt]

theorem uint64?_toNat (n : UInt64) :
  uint64? (.ofNat n.toNat) = some n
  := by
  rw [uint64?, Json.natBelow?_ofNat n.toNat_lt, Option.map_some, UInt64.ofNat_toNat]

theorem float?_ofFloat {x : Binary64} (finite : x.isFinite) :
  (Json.ofFloat x).float? = some x
  := by
  rw [Json.ofFloat, if_pos finite, Json.float?]

theorem uuid?_write (id : Uuid) :
  uuid? (.ofChars id.write) = some id
  := by
  rw [uuid?, Json.ofChars, Json.string?]
  simp only [Option.bind_eq_bind, Option.bind_some, String.toList_ofList, Uuid.read?_write]

theorem objectId?_ofBytes (id : ObjectId) :
  objectId? (.ofBytes id.bytes) = some id
  := by
  rw [objectId?, Json.bytes?_ofBytes]
  apply id.ofBytes?_bytes

theorem date?_write (d : Calendar.Date) :
  date? (.ofChars d.write) = some d
  := by
  rw [date?, Json.ofChars, Json.string?]
  simp only [Option.bind_eq_bind, Option.bind_some, String.toList_ofList, Calendar.Date.read?_write]

theorem timestamp?_write (t : Calendar.Instant) :
  timestamp? (.ofChars (t.write ['Z'])) = some t
  := by
  rw [timestamp?, Json.ofChars, Json.string?]
  simp only [Option.bind_eq_bind, Option.bind_some, String.toList_ofList,
    Calendar.Instant.read?_write]

/-- The JSON value of a finite value is decoded as it. -/
theorem ofJson?_toJson {v : Value} (h : v.IsFinite) :
  ofJson? v.toJson = some v
  := by
  cases v with
  | int n => rw [toJson, ofJson?_object, ofVariant?, int64?_toInt, Option.map_some]
  | uint n => rw [toJson, ofJson?_object, ofVariant?, uint64?_toNat, Option.map_some]
  | float x => rw [toJson, ofJson?_object, ofVariant?, float?_ofFloat h, Option.map_some]
  | uuid id => rw [toJson, ofJson?_object, ofVariant?, uuid?_write, Option.map_some]
  | objectId id => rw [toJson, ofJson?_object, ofVariant?, objectId?_ofBytes, Option.map_some]
  | bytes block => rw [toJson, ofJson?_object, ofVariant?, Json.bytes?_ofBytes, Option.map_some]
  | date d => rw [toJson, ofJson?_object, ofVariant?, date?_write, Option.map_some]
  | timestamp t => rw [toJson, ofJson?_object, ofVariant?, timestamp?_write, Option.map_some]
  | string _ | boolean _ | pattern _ | null => rfl

/-- The JSON value of a finite value is readable. -/
theorem isReadable_toJson {v : Value} (h : v.IsFinite) :
  v.toJson.IsReadable
  := by
  cases v with
  | int n =>
    have most : n.toInt < 2 ^ 64 := n.toInt_lt.trans (by decide)
    apply Json.isReadable_singleton _ (.int n.le_toInt most)
  | uint n => apply Json.isReadable_singleton _ (Json.isReadable_ofNat n.toNat_lt)
  | float x =>
    have finite : x.isFinite := h
    rw [toJson, Json.ofFloat, if_pos finite]
    apply Json.isReadable_singleton _ (.float finite)
  | string s | uuid s | date s | timestamp s => apply Json.isReadable_singleton _ (.string _)
  | boolean b => apply Json.isReadable_singleton _ (.bool b)
  | objectId id => apply Json.isReadable_singleton _ (Json.isReadable_ofBytes _)
  | bytes block => apply Json.isReadable_singleton _ (Json.isReadable_ofBytes _)
  | pattern p =>
    apply Json.isReadable_singleton
    apply Json.isReadable_pair (by decide)
    · exact .string _
    · exact .string _
  | null => exact .string _

end Value

end FilterQuery
