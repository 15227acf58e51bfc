import FilterQuery.Text.Base64

/-!
# Base64 read back

Four characters stand for up to three bytes, which are found again from the six bits of each.  So
different bytes have different base64 texts.
-/

namespace FilterQuery.Text

/-! ### Characters -/

/-- The number below 64 that a character stands for. -/
def base64Value? (c : Char) : Option Nat :=
  if 'A' ≤ c ∧ c ≤ 'Z' then some (c.toNat - 'A'.toNat)
  else if 'a' ≤ c ∧ c ≤ 'z' then some (c.toNat - 'a'.toNat + 26)
  else if '0' ≤ c ∧ c ≤ '9' then some (c.toNat - '0'.toNat + 52)
  else if c = '+' then some 62
  else if c = '/' then some 63
  else none

theorem base64Value?_base64Digit {n : Nat} (h : n < 64) :
  base64Value? (base64Digit n) = some n
  := by
  revert h n
  decide

/-- What a group is filled up with stands for no number. -/
theorem base64Digit_ne {n : Nat} (h : n < 64) :
  base64Digit n ≠ '='
  := by
  revert h n
  decide

/-! ### Groups -/

/-- The bytes of a group of four characters. -/
def bytesOfGroup? (first second third fourth : Char) : Option (List UInt8) := do
  let v ← base64Value? first
  let w ← base64Value? second
  let high := 64 * v + w
  if third = '=' then
    if fourth = '=' then some [UInt8.ofNat (high / 16)] else none
  else
    let x ← base64Value? third
    let middle := 64 * high + x
    if fourth = '=' then some [UInt8.ofNat (middle / 1024), UInt8.ofNat (middle / 4 % 256)]
    else
      let y ← base64Value? fourth
      let all := 64 * middle + y
      some [UInt8.ofNat (all / 65536), UInt8.ofNat (all / 256 % 256), UInt8.ofNat (all % 256)]

theorem bytesOfGroup?_one (a : UInt8) :
  let n := a.toNat * 16
  bytesOfGroup? (base64Digit (n / 64)) (base64Digit (n % 64)) '=' '=' = some [a]
  := by
  intro n
  have byte := a.toNat_lt
  have first : n / 64 < 64 := by omega
  have second : n % 64 < 64 := by omega
  have whole : 64 * (n / 64) + n % 64 = n := by omega
  have found : n / 16 = a.toNat := by omega
  simp only [bytesOfGroup?, base64Value?_base64Digit first, base64Value?_base64Digit second,
    Option.bind_eq_bind, Option.bind_some, if_true, whole, found, UInt8.ofNat_toNat]

theorem bytesOfGroup?_two (a b : UInt8) :
  let n := (a.toNat * 256 + b.toNat) * 4
  bytesOfGroup? (base64Digit (n / 4096)) (base64Digit (n / 64 % 64)) (base64Digit (n % 64)) '='
    = some [a, b]
  := by
  intro n
  have bytes := And.intro a.toNat_lt b.toNat_lt
  have first : n / 4096 < 64 := by omega
  have second : n / 64 % 64 < 64 := by omega
  have third : n % 64 < 64 := by omega
  have whole : 64 * (64 * (n / 4096) + n / 64 % 64) + n % 64 = n := by omega
  have high : n / 1024 = a.toNat := by omega
  have low : n / 4 % 256 = b.toNat := by omega
  simp only [bytesOfGroup?, base64Value?_base64Digit first, base64Value?_base64Digit second,
    base64Value?_base64Digit third, base64Digit_ne third, Option.bind_eq_bind, Option.bind_some,
    if_true, if_false, whole, high, low, UInt8.ofNat_toNat]

theorem bytesOfGroup?_three (a b c : UInt8) :
  let n := (a.toNat * 256 + b.toNat) * 256 + c.toNat
  bytesOfGroup? (base64Digit (n / 262144)) (base64Digit (n / 4096 % 64))
      (base64Digit (n / 64 % 64)) (base64Digit (n % 64))
    = some [a, b, c]
  := by
  intro n
  have bytes := And.intro a.toNat_lt (And.intro b.toNat_lt c.toNat_lt)
  have first : n / 262144 < 64 := by omega
  have second : n / 4096 % 64 < 64 := by omega
  have third : n / 64 % 64 < 64 := by omega
  have fourth : n % 64 < 64 := by omega
  have whole : 64 * (64 * (64 * (n / 262144) + n / 4096 % 64) + n / 64 % 64) + n % 64 = n := by
    omega
  have high : n / 65536 = a.toNat := by omega
  have middle : n / 256 % 256 = b.toNat := by omega
  have low : n % 256 = c.toNat := by omega
  simp only [bytesOfGroup?, base64Value?_base64Digit first, base64Value?_base64Digit second,
    base64Value?_base64Digit third, base64Value?_base64Digit fourth, base64Digit_ne third,
    base64Digit_ne fourth, Option.bind_eq_bind, Option.bind_some, if_false, whole, high, middle,
    low, UInt8.ofNat_toNat]

/-! ### Texts -/

/-- The bytes that a base64 text stands for. -/
def bytesOfBase64? : List Char → Option (List UInt8)
  | [] => some []
  | first :: second :: third :: fourth :: rest => do
    let bytes ← bytesOfGroup? first second third fourth
    let more ← bytesOfBase64? rest
    some (bytes ++ more)
  | _ => none

/-- The base64 text of bytes stands for them. -/
theorem bytesOfBase64?_base64 (bytes : List UInt8) :
  bytesOfBase64? (base64 bytes) = some bytes
  := by
  induction bytes using base64.induct with
  | case1 => rfl
  | case2 a =>
    rw [base64, bytesOfBase64?, bytesOfGroup?_one]
    rfl
  | case3 a b =>
    rw [base64, bytesOfBase64?, bytesOfGroup?_two]
    rfl
  | case4 a b c rest ih =>
    rw [base64, bytesOfBase64?, bytesOfGroup?_three, ih]
    rfl

end FilterQuery.Text
