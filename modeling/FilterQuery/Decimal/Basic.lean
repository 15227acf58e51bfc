/-!
# Decimal numbers

A `Decimal` is a natural coefficient times a power of ten.  Many decimals name one number;
`Decimal.normal` is the one whose coefficient does not end in a zero.
-/

namespace FilterQuery

/-- The number `coefficient * 10 ^ exponent`. -/
structure Decimal where
  coefficient : Nat
  exponent : Int
deriving DecidableEq

namespace Decimal

/-- The coefficient and exponent with the zeros at the end of the coefficient moved over. -/
def strip (coefficient : Nat) (exponent : Int) : Decimal :=
  if 0 < coefficient ∧ coefficient % 10 = 0 then strip (coefficient / 10) (exponent + 1)
  else ⟨coefficient, exponent⟩
termination_by coefficient

/-- The same number with no zero at the end of the coefficient; zero has the exponent 0. -/
def normal (d : Decimal) : Decimal :=
  if d.coefficient = 0 then ⟨0, 0⟩ else strip d.coefficient d.exponent

/-- The digits of the coefficient. -/
def digits (d : Decimal) : List Char := Nat.toDigits 10 d.coefficient

/-- The exponent of the number written with one digit before the point. -/
def leadingExponent (d : Decimal) : Int := d.exponent + d.digits.length - 1

end Decimal

end FilterQuery
