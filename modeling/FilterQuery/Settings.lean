import FilterQuery.Error
import FilterQuery.Json.Printer
import FilterQuery.Json.Record
import FilterQuery.Json.Selection

/-!
# Settings

The settings of a compiler are the greatest depth of expressions it accepts, and the name that
stands for `Id` and `id` in paths.  In JSON they are a record whose fields may be left out; as an
array, from the end.
-/

namespace FilterQuery

/-- The settings of a compiler. -/
structure Settings where
  /-- The greatest depth of an expression. -/
  maxDepth : Nat
  /-- The name of the field that identifies a document. -/
  identityField : String
deriving DecidableEq

namespace Settings

/-- The settings of a compiler that was given none. -/
def default : Settings := ⟨256, "_id"⟩

/-- The first fault of settings. -/
def validate (s : Settings) : Except SettingsFault Unit :=
  if s.maxDepth = 0 then .error .zeroDepth
  else if s.identityField = "" then .error .emptyIdentity
  else .ok ()

/-- Settings in JSON. -/
def toJson (s : Settings) : Json :=
  .object [("max_depth", .ofNat s.maxDepth), ("identity_field", .string s.identityField)]

/-- The depth of a JSON value. -/
def depth? (j : Json) : Option Nat := j.natBelow? UInt64.size

/-- The value read from a field, or the default if it is left out. -/
def fieldOr {α : Type} (value : α) (read : Json → Option α) : Option Json → Option α
  | none => some value
  | some j => read j

/-- The settings of a JSON value. -/
def ofJson? : Json → Option Settings
  | .object members => do
    let maxDepth ← fieldOr default.maxDepth depth? (Json.lookup "max_depth" members)
    let identityField ←
      fieldOr default.identityField Json.string? (Json.lookup "identity_field" members)
    some ⟨maxDepth, identityField⟩
  | .array items =>
    if items.length ≤ 2 then do
      let maxDepth ← fieldOr default.maxDepth depth? items[0]?
      let identityField ← fieldOr default.identityField Json.string? items[1]?
      some ⟨maxDepth, identityField⟩
    else none
  | _ => none

/-- What is read of the text of settings. -/
def selector : Json.Selector := .record [("max_depth", .all), ("identity_field", .all)]

/-- The settings of a text, if they have no fault. -/
def read (s : String) : Except SettingsFault Settings :=
  match (selector.read? s).bind ofJson? with
  | none => .error .undecodable
  | some settings => settings.validate.map fun _ => settings

end Settings

end FilterQuery
