import FilterQuery.Json.Reader

/-!
# Reading parts of a JSON text

A `Selector` turns a spelled value into a JSON value and may leave members of it out.  What is left
out has only been spelled correctly: its numerals may be out of range, its strings may hold
single surrogates, and it may be nested to any depth.
-/

namespace FilterQuery.Json

/-- A choice of what is read of a spelled value. -/
abbrev Selector := Spelled → Option Json

namespace Selector

/-- Everything is read. -/
def all : Selector := ofSpelled?

/-- Of each item of an array, what is chosen is read. -/
def items (item : Selector) : Selector
  | .array spelled => (spelled.mapM item).map .array
  | _ => none

/-- The members that are chosen, with their names. -/
def members (fields : List (String × Selector)) :
    List (List Piece × Spelled) → Option (List (String × Json))
  | [] => some []
  | (pieces, value) :: rest => do
    let name ← Piece.string? pieces
    let read ← members fields rest
    match fields.find? fun field => field.1 = name with
    | none => some read
    | some (_, selector) =>
      let j ← selector value
      if read.any fun member => member.1 = name then none
      else some ((name, j) :: read)

/-- The items of a record that is written as an array. -/
def places : List (String × Selector) → List Spelled → Option (List Json)
  | _, [] => some []
  | [], _ :: _ => none
  | (_, selector) :: fields, value :: rest => do
    let j ← selector value
    let read ← places fields rest
    some (j :: read)

/-- Of a record, the given fields are read.  None of them may be repeated. -/
def record (fields : List (String × Selector)) : Selector
  | .object spelled => (members fields spelled).map .object
  | .array spelled => (places fields spelled).map .array
  | _ => none

/-- What is chosen of the value of a text. -/
def read? (selector : Selector) (s : String) : Option Json :=
  (Spelled.read? none s.toList).bind selector

end Selector

end FilterQuery.Json
