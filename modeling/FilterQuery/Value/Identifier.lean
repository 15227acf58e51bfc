import FilterQuery.Text.Hex

/-!
# Identifiers

An `Identifier n` is a string of `n` bytes.  A `Uuid` has sixteen; it is written as hexadecimal
digits in groups of 8, 4, 4, 4 and 12 with hyphens between them.  An `ObjectId` has twelve, and is
written without hyphens.
-/

namespace FilterQuery

/-- A string of `n` bytes. -/
structure Identifier (n : Nat) where
  bytes : List UInt8
  length_bytes : bytes.length = n
deriving DecidableEq

/-- A universally unique identifier. -/
abbrev Uuid := Identifier 16

/-- The identifier of a stored document. -/
abbrev ObjectId := Identifier 12

namespace Identifier

variable {n : Nat}

/-- The identifier with the given bytes, if there are `n` of them. -/
def ofBytes? (bytes : List UInt8) : Option (Identifier n) :=
  if h : bytes.length = n then some ⟨bytes, h⟩ else none

/-- The hexadecimal digits of an identifier. -/
def hex (id : Identifier n) : List Char := Text.hexOfBytes id.bytes

theorem ofBytes?_bytes (id : Identifier n) :
  ofBytes? id.bytes = some id
  := by
  simp [ofBytes?, id.length_bytes]

end Identifier

namespace Uuid

/-- The digits of a universally unique identifier, in groups. -/
def write (id : Uuid) : List Char :=
  let digits := id.hex
  digits.take 8 ++ '-' :: (digits.drop 8).take 4 ++ '-' :: (digits.drop 12).take 4 ++
    '-' :: (digits.drop 16).take 4 ++ '-' :: digits.drop 20

/-- The identifier with the given digits. -/
def ofDigits? (digits : List Char) : Option Uuid :=
  (Text.bytesOfHex? digits).bind Identifier.ofBytes?

/-- The identifier with the digits of five groups. -/
def ofGroups? (s : List Char) : Option Uuid :=
  let groups := s.splitOn '-'
  if groups.map List.length = [8, 4, 4, 4, 12] then ofDigits? groups.flatten else none

/-- The identifier a text names: 32 digits, or groups, also in braces or after `urn:uuid:` in
capital or small letters. -/
def read? (s : List Char) : Option Uuid :=
  if s.length = 32 then ofDigits? s
  else if s.head? = some '{' ∧ s.getLast? = some '}' then ofGroups? (s.drop 1).dropLast
  else if (s.take 9).map Char.toLower = "urn:uuid:".toList then ofGroups? (s.drop 9)
  else ofGroups? s

end Uuid

end FilterQuery
