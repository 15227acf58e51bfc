import FilterQuery.Bson.ExtendedJson
import FilterQuery.Json.Printer

/-!
# Queries

A `Query` is a condition in the language of the store, a document with one member.  A condition on a
field is named for the field; a conjunction or a disjunction has the conditions as items of an
array, in order and never merged.
-/

namespace FilterQuery

/-- A condition in the language of the store. -/
structure Query where
  document : Document

namespace Query

/-- A field is equal to a value, or matches it if it is a regular expression. -/
def eq (field : String) (value : Bson) : Query := ⟨[(field, value)]⟩

/-- An operator of the store applied to a field and a value. -/
def operator (field op : String) (value : Bson) : Query :=
  ⟨[(field, .document [(op, value)])]⟩

/-- A field is not equal to a value. -/
def ne (field : String) (value : Bson) : Query := operator field "$ne" value

/-- A field is greater than a value. -/
def gt (field : String) (value : Bson) : Query := operator field "$gt" value

/-- A field is greater than a value or equal to it. -/
def gte (field : String) (value : Bson) : Query := operator field "$gte" value

/-- A field is less than a value. -/
def lt (field : String) (value : Bson) : Query := operator field "$lt" value

/-- A field is less than a value or equal to it. -/
def lte (field : String) (value : Bson) : Query := operator field "$lte" value

/-- A field is equal to one of some values. -/
def isIn (field : String) (values : List Bson) : Query := operator field "$in" (.array values)

/-- A field is equal to none of some values. -/
def notIn (field : String) (values : List Bson) : Query := operator field "$nin" (.array values)

/-- Queries as the items of an array. -/
def combine (op : String) (queries : List Query) : Query :=
  ⟨[(op, .array (queries.map fun q => .document q.document))]⟩

/-- All queries hold. -/
def and (queries : List Query) : Query := combine "$and" queries

/-- One of the queries holds. -/
def or (queries : List Query) : Query := combine "$or" queries

/-- A field matches a regular expression. -/
def matching (field : String) (pattern : Pattern) : Query := eq field (.regex pattern)

/-- A query in relaxed Extended JSON. -/
def toExtendedJson (q : Query) : Json := (Bson.document q.document).toExtendedJson

/-- The text of a query. -/
def text (q : Query) : String := q.toExtendedJson.write

end Query

end FilterQuery
