import FilterQuery.Bson.Basic
import FilterQuery.Calendar.Notation
import FilterQuery.Json.Basic
import FilterQuery.Text.Base64
import FilterQuery.Text.Hex

/-!
# Relaxed Extended JSON

`Bson.toExtendedJson` shows a value of the store in JSON.  What JSON has no values for is an object
whose names begin with a dollar sign.
-/

namespace FilterQuery.Bson

/-- A double. -/
def extendedDouble (x : Binary64) : Json :=
  if x.isFinite then .float x
  else
    let name := if x.isNaN then "NaN" else if x.isNegative then "-Infinity" else "Infinity"
    .object [("$numberDouble", .string name)]

/-- The decimals of a number of milliseconds below 1000, without zeros at the end. -/
def milliDecimals (millis : Nat) : List Char :=
  if millis = 0 then []
  else
    let digits := Calendar.padded 3 millis
    '.' :: (digits.reverse.dropWhile (· = '0')).reverse

/-- A number of milliseconds from the start of 1970 as date and time. -/
def dateTimeText (millis : Int) : List Char :=
  let (year, month, day) := Calendar.dateOfDayNumber (millis / 86400000)
  let left := (millis % 86400000).toNat
  Calendar.writeDate year month day ++ 'T' :: Calendar.writeTime (left / 1000) 0 ++
    milliDecimals (left % 1000) ++ ['Z']

/-- A point in time.  From 1970 to the year 9999 it is shown as date and time. -/
def extendedDateTime (millis : Int) : Json :=
  let shown : Json :=
    if 0 ≤ millis ∧ Calendar.yearOfDayNumber (millis / 86400000) ≤ 9999 then
      .ofChars (dateTimeText millis)
    else .object [("$numberLong", .string (toString millis))]
  .object [("$date", shown)]

/-- The letters of options in ascending order. -/
def sortedOptions (options : String) : String :=
  String.ofList (options.toList.mergeSort fun a b => a ≤ b)

/-- A regular expression. -/
def extendedRegex (p : Pattern) : Json :=
  .object [("$regularExpression",
    .object [("pattern", .string p.pattern), ("options", .string (sortedOptions p.options))])]

/-- Bytes of a given subtype. -/
def extendedBinary (subtype : BinarySubtype) (bytes : List UInt8) : Json :=
  .object [("$binary",
    .object [("base64", .ofChars (Text.base64 bytes)),
      ("subType", .ofChars (Text.hexOfByte subtype.code))])]

mutual

/-- A value of the store in relaxed Extended JSON. -/
def toExtendedJson : Bson → Json
  | .int64 n => .int n.toInt
  | .double x => extendedDouble x
  | .string s => .string s
  | .boolean b => .bool b
  | .binary subtype bytes => extendedBinary subtype bytes
  | .objectId id => .object [("$oid", .ofChars id.hex)]
  | .dateTime millis => extendedDateTime millis
  | .regex p => extendedRegex p
  | .null => .null
  | .array items => .array (extendedItems items)
  | .document members => .object (extendedMembers members)

/-- Values of the store in relaxed Extended JSON. -/
def extendedItems : List Bson → List Json
  | [] => []
  | b :: items => b.toExtendedJson :: extendedItems items

/-- Named values of the store in relaxed Extended JSON. -/
def extendedMembers : List (String × Bson) → List (String × Json)
  | [] => []
  | (name, b) :: members => (name, b.toExtendedJson) :: extendedMembers members

end

end FilterQuery.Bson
