import FilterQuery.Binary64.Basic
import FilterQuery.Calendar.Instant
import FilterQuery.Value.Identifier

/-!
# Scalar values

A `Value` is a literal of a filter.  Lists of values are no values: they are operands of their own,
so a string is never taken for a list of characters.
-/

namespace FilterQuery

/-- A regular expression in the form of the store, with the letters of its options. -/
structure Pattern where
  pattern : String
  options : String
deriving DecidableEq

/-- A pattern without options. -/
def Pattern.plain (pattern : String) : Pattern := ⟨pattern, ""⟩

/-- A scalar literal. -/
inductive Value where
  | int (n : Int64)
  | uint (n : UInt64)
  | float (x : Binary64)
  | string (s : String)
  | boolean (b : Bool)
  | uuid (id : Uuid)
  | objectId (id : ObjectId)
  | bytes (bytes : List UInt8)
  | date (d : Calendar.Date)
  | timestamp (t : Calendar.Instant)
  | pattern (p : Pattern)
  | null
deriving DecidableEq

/-- The type of a value. -/
inductive ValueType where
  | int
  | uint
  | float
  | string
  | boolean
  | uuid
  | objectId
  | bytes
  | date
  | timestamp
  | pattern
  | null
deriving DecidableEq

/-- The name of a type in messages. -/
def ValueType.name : ValueType → String
  | .int => "int"
  | .uint => "uint"
  | .float => "float"
  | .string => "string"
  | .boolean => "boolean"
  | .uuid => "uuid"
  | .objectId => "objectid"
  | .bytes => "bytes"
  | .date => "date"
  | .timestamp => "timestamp"
  | .pattern => "pattern"
  | .null => "null"

namespace Value

/-- The type of a value. -/
def type : Value → ValueType
  | .int _ => .int
  | .uint _ => .uint
  | .float _ => .float
  | .string _ => .string
  | .boolean _ => .boolean
  | .uuid _ => .uuid
  | .objectId _ => .objectId
  | .bytes _ => .bytes
  | .date _ => .date
  | .timestamp _ => .timestamp
  | .pattern _ => .pattern
  | .null => .null

/-- The string of a value that is one. -/
def string? : Value → Option String
  | .string s => some s
  | _ => none

end Value

end FilterQuery
