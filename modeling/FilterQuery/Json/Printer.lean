import FilterQuery.Binary64.Shortest
import FilterQuery.Decimal.Notation
import FilterQuery.Json.Basic
import FilterQuery.Text.Hex

/-!
# Compact JSON text

`Json.write` is the text of a JSON value with no blanks.  Strings keep all characters but quotes,
backslashes and the controls below the space.  Doubles have the fewest digits that read back.
-/

namespace FilterQuery.Json

/-- Doubles have an exponent when it is below -5 or above 15, and else always show a point. -/
def floatStyle : Decimal.Style where
  isPositional lead := -5 ≤ lead && lead ≤ 15
  showsPoint := true

/-- The text of a double; of two shortest decimals equally near to it, the even one. -/
def writeFloat (x : Binary64) : List Char :=
  if x.isFinite then
    (if x.isNegative then ['-'] else []) ++
      (Binary64.shortest .toEven x.magnitude).write floatStyle
  else "null".toList

/-- The text of a whole number. -/
def writeInt (n : Int) : List Char :=
  (if n < 0 then ['-'] else []) ++ Nat.toDigits 10 n.natAbs

/-- A character as it stands in a string. -/
def escapeChar (c : Char) : List Char :=
  match c with
  | '"' => ['\\', '"']
  | '\\' => ['\\', '\\']
  | '\x08' => ['\\', 'b']
  | '\t' => ['\\', 't']
  | '\n' => ['\\', 'n']
  | '\x0c' => ['\\', 'f']
  | '\r' => ['\\', 'r']
  | c => if c < ' ' then '\\' :: 'u' :: '0' :: '0' :: Text.hexOfByte (UInt8.ofNat c.toNat) else [c]

/-- A string between quotes. -/
def writeString (s : String) : List Char :=
  '"' :: s.toList.flatMap escapeChar ++ ['"']

mutual

/-- The text of a value, before a given text. -/
def writeBefore : Json → List Char → List Char
  | .null, rest => "null".toList ++ rest
  | .bool true, rest => "true".toList ++ rest
  | .bool false, rest => "false".toList ++ rest
  | .int n, rest => writeInt n ++ rest
  | .float x, rest => writeFloat x ++ rest
  | .string s, rest => writeString s ++ rest
  | .array items, rest => '[' :: writeItems items (']' :: rest)
  | .object members, rest => '{' :: writeMembers members ('}' :: rest)

/-- The texts of values with commas between them, before a given text. -/
def writeItems : List Json → List Char → List Char
  | [], rest => rest
  | [j], rest => writeBefore j rest
  | j :: k :: items, rest => writeBefore j (',' :: writeItems (k :: items) rest)

/-- The texts of members with commas between them, before a given text. -/
def writeMembers : List (String × Json) → List Char → List Char
  | [], rest => rest
  | [(name, j)], rest => writeString name ++ ':' :: writeBefore j rest
  | (name, j) :: member :: members, rest =>
    writeString name ++ ':' :: writeBefore j (',' :: writeMembers (member :: members) rest)

end

mutual

/-- What comes after a value does not change its text. -/
theorem writeBefore_append (j : Json) (r s : List Char) :
  writeBefore j (r ++ s) = writeBefore j r ++ s
  := by
  cases j with
  | bool b => cases b <;> simp [writeBefore]
  | array items => simp [writeBefore, ← writeItems_append]
  | object members => simp [writeBefore, ← writeMembers_append]
  | _ => simp [writeBefore]

theorem writeItems_append (items : List Json) (r s : List Char) :
  writeItems items (r ++ s) = writeItems items r ++ s
  := by
  match items with
  | [] => rfl
  | [j] => exact writeBefore_append j r s
  | j :: k :: items =>
    rw [writeItems, writeItems, writeItems_append (k :: items) r s, ← List.cons_append,
      writeBefore_append]

theorem writeMembers_append (members : List (String × Json)) (r s : List Char) :
  writeMembers members (r ++ s) = writeMembers members r ++ s
  := by
  match members with
  | [] => rfl
  | [(name, j)] => simp [writeMembers, writeBefore_append]
  | (name, j) :: member :: members =>
    rw [writeMembers, writeMembers, writeMembers_append (member :: members) r s,
      ← List.cons_append, writeBefore_append]
    simp

end

/-- The compact text of a value. -/
def write (j : Json) : String := String.ofList (writeBefore j [])

end FilterQuery.Json
