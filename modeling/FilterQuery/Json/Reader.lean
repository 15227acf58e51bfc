import FilterQuery.Binary64.Rounding
import FilterQuery.Json.Basic
import FilterQuery.Json.Spelled

/-!
# Reading JSON

`Json.read?` reads a value from a text.  Digits only are a whole number if it fits 64 bits, signed
or unsigned; zero with a sign and all other numerals are doubles, which may not be infinite.  A
surrogate that is not one of a pair is refused, and of members with one name the last counts.
-/

namespace FilterQuery.Json

/-- The JSON value of a numeral. -/
def ofNumeral? (n : Numeral) : Option Json :=
  let m := n.decimal.coefficient
  if n.isWhole ∧ ¬ n.isNegative ∧ m < UInt64.size then some (.int m)
  else if n.isWhole ∧ n.isNegative ∧ 0 < m ∧ Int64.minValue.toInt ≤ -m then some (.int (-m))
  else
    let x := Binary64.ofDecimal n.isNegative n.decimal
    if x.isFinite then some (.float x) else none

/-- The members whose name does not occur again further on. -/
def lastOfEach : List (String × Json) → List (String × Json)
  | [] => []
  | (name, j) :: rest =>
    if rest.any fun member => member.1 = name then lastOfEach rest
    else (name, j) :: lastOfEach rest

mutual

/-- The JSON value of a spelled one. -/
def ofSpelled? : Spelled → Option Json
  | .null => some .null
  | .bool b => some (.bool b)
  | .numeral n => ofNumeral? n
  | .string pieces => (Piece.string? pieces).map .string
  | .array items => (ofItems? items).map .array
  | .object members => (ofMembers? members).map fun members => .object (lastOfEach members)

/-- The JSON values of spelled items. -/
def ofItems? : List Spelled → Option (List Json)
  | [] => some []
  | item :: items => do
    let j ← ofSpelled? item
    let rest ← ofItems? items
    some (j :: rest)

/-- The members of spelled ones. -/
def ofMembers? : List (List Piece × Spelled) → Option (List (String × Json))
  | [] => some []
  | (name, value) :: members => do
    let name ← Piece.string? name
    let j ← ofSpelled? value
    let rest ← ofMembers? members
    some ((name, j) :: rest)

end

/-- The value a text stands for, with at most `limit` arrays and objects inside each other. -/
def readWithin? (limit : Option Nat) (s : String) : Option Json :=
  (Spelled.read? limit s.toList).bind ofSpelled?

/-- The greatest number of arrays and objects inside each other in a text that is accepted. -/
def maxNesting : Nat := 127

/-- The value a text stands for. -/
def read? (s : String) : Option Json := readWithin? (some maxNesting) s

end FilterQuery.Json
