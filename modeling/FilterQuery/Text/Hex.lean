/-!
# Hexadecimal text

Bytes as pairs of hexadecimal digits.  Digits are written in lower case and read in any case.
-/

namespace FilterQuery.Text

/-- The digit of a number below 16, in lower case. -/
def hexDigit (n : Nat) : Char := Nat.digitChar n

/-- The number of a hexadecimal digit, of either case. -/
def hexValue? (c : Char) : Option Nat :=
  if '0' ≤ c ∧ c ≤ '9' then some (c.toNat - '0'.toNat)
  else if 'a' ≤ c ∧ c ≤ 'f' then some (c.toNat - 'a'.toNat + 10)
  else if 'A' ≤ c ∧ c ≤ 'F' then some (c.toNat - 'A'.toNat + 10)
  else none

/-- The two digits of a byte. -/
def hexOfByte (b : UInt8) : List Char :=
  [hexDigit (b.toNat / 16), hexDigit (b.toNat % 16)]

/-- The digits of a list of bytes. -/
def hexOfBytes (bytes : List UInt8) : List Char := bytes.flatMap hexOfByte

/-- The bytes that an even number of digits stands for. -/
def bytesOfHex? : List Char → Option (List UInt8)
  | [] => some []
  | [_] => none
  | high :: low :: rest => do
    let h ← hexValue? high
    let l ← hexValue? low
    let bytes ← bytesOfHex? rest
    some (UInt8.ofNat (16 * h + l) :: bytes)

theorem hexValue?_hexDigit {n : Nat} (h : n < 16) :
  hexValue? (hexDigit n) = some n
  := by
  revert h n
  decide

theorem bytesOfHex?_hexOfBytes (bytes : List UInt8) :
  bytesOfHex? (hexOfBytes bytes) = some bytes
  := by
  induction bytes with
  | nil => rfl
  | cons b rest ih =>
    have high : b.toNat / 16 < 16 := by
      have := b.toNat_lt
      omega
    have low : b.toNat % 16 < 16 := Nat.mod_lt _ (by decide)
    change bytesOfHex? (hexDigit _ :: hexDigit _ :: hexOfBytes rest) = _
    rw [bytesOfHex?, hexValue?_hexDigit high, hexValue?_hexDigit low, ih]
    simp [-UInt8.ofNat_add, -UInt8.ofNat_mul, Nat.div_add_mod]

end FilterQuery.Text
