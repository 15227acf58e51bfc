import FilterQuery.Binary64.Rounding
import FilterQuery.Bson.Basic

/-!
# Encoding values

An `Encoder` turns the literals of a filter into values of the store.  `Encoder.bson` keeps all of a
value but what the store has no room for: whether an integer has a sign, and fractions of a
millisecond.
-/

namespace FilterQuery

/-- A way to turn literals into values of the store. -/
structure Encoder where
  encode : Value → Bson

namespace Encoder

/-- The values of the store for a list of literals, in order. -/
def encodeAll (encoder : Encoder) (values : List Value) : List Bson := values.map encoder.encode

end Encoder

/-- The value of the store for a literal.  An unsigned integer too large for it becomes a double. -/
def Bson.ofValue : Value → Bson
  | .int n => .int64 n
  | .uint n =>
    if (n.toNat : Int) ≤ Int64.maxValue.toInt then .int64 (Int64.ofNat n.toNat)
    else .double (.ofInt n.toNat)
  | .float x => .double x
  | .string s => .string s
  | .boolean b => .boolean b
  | .uuid id => .binary .uuid id.bytes
  | .objectId id => .objectId id
  | .bytes bytes => .binary .generic bytes
  | .date d => .dateTime d.millis
  | .timestamp t => .dateTime t.millis
  | .pattern p => .regex p
  | .null => .null

/-- The encoder that keeps each value as what it is in the store. -/
def Encoder.bson : Encoder := ⟨Bson.ofValue⟩

end FilterQuery
