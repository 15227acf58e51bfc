import FilterQuery.Json.Reader

/-!
# Records and variants in JSON

A record is an object with a member for each field, or an array with an item for each field in the
order of the fields; other members of an object are passed over.  A variant is an object whose only
member names the variant and holds its payload, or a string that names it.
-/

namespace FilterQuery.Json

/-- The value of a field of a record with the given fields. -/
def field? (fields : List String) (name : String) : Json → Option Json
  | .object members => lookup name members
  | .array items => if items.length = fields.length then items[fields.idxOf name]? else none
  | _ => none

/-- The name of a variant, and its payload. -/
def variant? : Json → Option (String × Option Json)
  | .string name => some (name, none)
  | .object [(name, payload)] => some (name, some payload)
  | _ => none

/-- A field of a record is smaller than the record. -/
theorem sizeOf_field?_lt {fields : List String} {name : String} {j k : Json}
    (h : j.field? fields name = some k) :
  sizeOf k < sizeOf j
  := by
  cases j with
  | object members =>
    have := sizeOf_lookup_lt h
    simp
    omega
  | array items =>
    simp only [field?] at h
    split at h
    · have := List.sizeOf_lt_of_mem (List.mem_of_getElem? h)
      simp
      omega
    · simp at h
  | _ => simp [field?] at h

/-- The payload of a variant is smaller than the variant. -/
theorem sizeOf_variant?_lt {name : String} {j payload : Json}
    (h : j.variant? = some (name, some payload)) :
  sizeOf payload < sizeOf j
  := by
  unfold variant? at h
  split at h
  · simp at h
  · simp only [Option.some.injEq, Prod.mk.injEq] at h
    obtain ⟨-, rfl⟩ := h
    simp
    omega
  · simp at h

/-- The string of a JSON value that is one. -/
def string? : Json → Option String
  | .string s => some s
  | _ => none

/-- The truth value of a JSON value that is one. -/
def bool? : Json → Option Bool
  | .bool b => some b
  | _ => none

/-- The items of a JSON value that is an array. -/
def array? : Json → Option (List Json)
  | .array items => some items
  | _ => none

/-- The whole number of a JSON value, if it lies between two bounds. -/
def intWithin? (least most : Int) : Json → Option Int
  | .int n => if least ≤ n ∧ n ≤ most then some n else none
  | _ => none

/-- The natural number of a JSON value, if it is less than a bound. -/
def natBelow? (bound : Nat) (j : Json) : Option Nat :=
  (j.intWithin? 0 (bound - 1)).map Int.toNat

/-- The byte of a JSON value that is one. -/
def byte? (j : Json) : Option UInt8 := (j.natBelow? 256).map UInt8.ofNat

/-- The double of a JSON value that is a number. -/
def float? : Json → Option Binary64
  | .int n => some (Binary64.ofInt n)
  | .float x => some x
  | _ => none

end FilterQuery.Json
