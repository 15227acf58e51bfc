import FilterQuery.Binary64.Basic

/-!
# JSON values

A number is kept as a whole number or as a double.  The members of an object are in order; of
members with one name, `Json.get?` finds the first, and a value that was read from a text has no
two.
-/

namespace FilterQuery

/-- A JSON value. -/
inductive Json where
  | null
  | bool (b : Bool)
  | int (n : Int)
  | float (x : Binary64)
  | string (s : String)
  | array (items : List Json)
  | object (members : List (String × Json))

namespace Json

/-- A double as a JSON value.  There are numerals for finite doubles only. -/
def ofFloat (x : Binary64) : Json := if x.isFinite then .float x else .null

/-- A natural number as a JSON value. -/
def ofNat (n : Nat) : Json := .int n

/-- A string as a JSON value. -/
def ofChars (s : List Char) : Json := .string (String.ofList s)

/-- The value of a name in a list of members. -/
def lookup (name : String) : List (String × Json) → Option Json
  | [] => none
  | (key, value) :: rest => if key = name then some value else lookup name rest

/-- The member of an object with a given name. -/
def get? (name : String) : Json → Option Json
  | .object members => lookup name members
  | _ => none

theorem sizeOf_lookup_lt {name : String} {members : List (String × Json)} {j : Json}
    (h : lookup name members = some j) :
  sizeOf j < sizeOf members
  := by
  induction members with
  | nil => simp [lookup] at h
  | cons member rest ih =>
    obtain ⟨key, value⟩ := member
    rw [lookup] at h
    split at h
    · simp only [Option.some.injEq] at h
      subst h
      simp
      omega
    · have := ih h
      simp
      omega

/-- A member of an object is smaller than the object. -/
theorem sizeOf_get?_lt {name : String} {j k : Json} (h : j.get? name = some k) :
  sizeOf k < sizeOf j
  := by
  cases j with
  | object members =>
    have := sizeOf_lookup_lt h
    simp
    omega
  | _ => simp [get?] at h

end Json

end FilterQuery
