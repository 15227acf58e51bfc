import FilterQuery.Binary64.Shortest
import FilterQuery.Calendar.Notation
import FilterQuery.Decimal.Notation
import FilterQuery.Text.Quoted
import FilterQuery.Value.Basic

/-!
# The display form of values

`Value.display` is the text of a value for people to read.  It does not always tell values apart:
bytes are only counted.
-/

namespace FilterQuery.Value

/-- Doubles have all their places written out, and show no point when they are whole. -/
def floatStyle : Decimal.Style where
  isPositional _ := true
  showsPoint := false

/-- The text of a double; of two shortest decimals equally near to it, the larger one. -/
def displayFloat (x : Binary64) : String :=
  let sign := if x.isNegative then "-" else ""
  if x.isNaN then "NaN"
  else if x.isFinite then
    sign ++ String.ofList ((Binary64.shortest .up x.magnitude).write floatStyle)
  else sign ++ "inf"

/-- The display form of a value. -/
def display : Value → String
  | .int n => toString n.toInt
  | .uint n => toString n.toNat
  | .float x => displayFloat x
  | .string s => Text.quoted s
  | .boolean true => "true"
  | .boolean false => "false"
  | .uuid id => String.ofList (Uuid.write id)
  | .objectId id => String.ofList id.hex
  | .bytes block => "<" ++ toString block.length ++ " bytes>"
  | .date d => String.ofList d.write
  | .timestamp t => String.ofList (t.write "+00:00".toList)
  | .pattern p => "/" ++ p.pattern ++ "/" ++ p.options
  | .null => "NULL"

end FilterQuery.Value
