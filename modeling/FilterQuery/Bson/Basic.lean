import FilterQuery.Binary64.Basic
import FilterQuery.Value.Basic

/-!
# BSON values

The values a document store compares with.  A `Document` is a list of named values in order.
-/

namespace FilterQuery

/-- What the bytes of a binary value are. -/
inductive BinarySubtype where
  | generic
  | uuid
deriving DecidableEq

/-- The number of a subtype. -/
def BinarySubtype.code : BinarySubtype → UInt8
  | .generic => 0
  | .uuid => 4

/-- A value of the store. -/
inductive Bson where
  | int64 (n : Int64)
  | double (x : Binary64)
  | string (s : String)
  | boolean (b : Bool)
  | binary (subtype : BinarySubtype) (bytes : List UInt8)
  | objectId (id : ObjectId)
  /-- A point in time, in milliseconds from the start of 1970. -/
  | dateTime (millis : Int)
  | regex (pattern : Pattern)
  | null
  | array (items : List Bson)
  | document (members : List (String × Bson))

/-- Named values of the store. -/
abbrev Document := List (String × Bson)

end FilterQuery
