import FilterQuery.Calendar.Notation
import FilterQuery.Calendar.Reader
import FilterQuery.Json.Record
import FilterQuery.Value.Basic

/-!
# Values in JSON

A value is a variant named for its type, with the contents as payload; null has no payload.  Dates,
instants and universally unique identifiers are strings, byte strings arrays of numbers.
-/

namespace FilterQuery

/-- The fields of a pattern. -/
def Pattern.fields : List String := ["pattern", "options"]

/-- A pattern in JSON. -/
def Pattern.toJson (p : Pattern) : Json :=
  .object [("pattern", .string p.pattern), ("options", .string p.options)]

/-- The pattern of a JSON value. -/
def Pattern.ofJson? (j : Json) : Option Pattern := do
  let pattern ← (← j.field? fields "pattern").string?
  let options ← (← j.field? fields "options").string?
  some ⟨pattern, options⟩

/-- Bytes in JSON. -/
def Json.ofBytes (bytes : List UInt8) : Json := .array (bytes.map fun b => .ofNat b.toNat)

/-- The bytes of a JSON value. -/
def Json.bytes? (j : Json) : Option (List UInt8) := do (← j.array?).mapM Json.byte?

namespace Value

/-- A value in JSON. -/
def toJson : Value → Json
  | .int n => .object [("Int", .int n.toInt)]
  | .uint n => .object [("Uint", .ofNat n.toNat)]
  | .float x => .object [("Float", .ofFloat x)]
  | .string s => .object [("String", .string s)]
  | .boolean b => .object [("Boolean", .bool b)]
  | .uuid id => .object [("Uuid", .ofChars (Uuid.write id))]
  | .objectId id => .object [("ObjectId", .ofBytes id.bytes)]
  | .bytes block => .object [("Bytes", .ofBytes block)]
  | .date d => .object [("Date", .ofChars d.write)]
  | .timestamp t => .object [("Timestamp", .ofChars (t.write ['Z']))]
  | .pattern p => .object [("Pattern", p.toJson)]
  | .null => .string "Null"

/-- The integer of a JSON value, in 64 bits with a sign. -/
def int64? (j : Json) : Option Int64 :=
  (j.intWithin? Int64.minValue.toInt Int64.maxValue.toInt).map Int64.ofInt

/-- The integer of a JSON value, in 64 bits without a sign. -/
def uint64? (j : Json) : Option UInt64 := (j.natBelow? UInt64.size).map UInt64.ofNat

/-- The universally unique identifier of a JSON value. -/
def uuid? (j : Json) : Option Uuid := do Uuid.read? (← j.string?).toList

/-- The document identifier of a JSON value. -/
def objectId? (j : Json) : Option ObjectId := do Identifier.ofBytes? (← j.bytes?)

/-- The date of a JSON value. -/
def date? (j : Json) : Option Calendar.Date := do Calendar.Date.read? (← j.string?).toList

/-- The instant of a JSON value. -/
def timestamp? (j : Json) : Option Calendar.Instant := do
  Calendar.Instant.read? (← j.string?).toList

/-- The value of a variant, by its name and payload. -/
def ofVariant? (name : String) (payload : Option Json) : Option Value :=
  match name, payload with
  | "Int", some j => (int64? j).map .int
  | "Uint", some j => (uint64? j).map .uint
  | "Float", some j => j.float?.map .float
  | "String", some j => j.string?.map .string
  | "Boolean", some j => j.bool?.map .boolean
  | "Uuid", some j => (uuid? j).map .uuid
  | "ObjectId", some j => (objectId? j).map .objectId
  | "Bytes", some j => j.bytes?.map .bytes
  | "Date", some j => (date? j).map .date
  | "Timestamp", some j => (timestamp? j).map .timestamp
  | "Pattern", some j => (Pattern.ofJson? j).map .pattern
  | "Null", some .null => some .null
  | "Null", none => some .null
  | _, _ => none

/-- The value of a JSON value. -/
def ofJson? (j : Json) : Option Value := do
  let (name, payload) ← j.variant?
  ofVariant? name payload

end Value

end FilterQuery
