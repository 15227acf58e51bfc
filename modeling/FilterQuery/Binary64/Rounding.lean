import FilterQuery.Binary64.Basic
import FilterQuery.Decimal.Basic

/-!
# Rounding to double precision

`ofDecimal` and `ofInt` give the double nearest to a number, and the one with an even magnitude
when two are equally near.  A number beyond the largest double by half a unit or more becomes
infinite.  All arithmetic is on natural numbers and exact.
-/

namespace FilterQuery.Binary64

/-- The whole number nearest to `num / den`, the even one of two. -/
def roundHalfEven (num den : Nat) : Nat :=
  let whole := num / den
  let twice := 2 * (num % den)
  if twice < den then whole
  else if den < twice then whole + 1
  else if whole % 2 = 0 then whole
  else whole + 1

/--
The magnitude nearest to `num / den`.  The last place of a number of `units` is doubled as often
as its binary length exceeds 53, and the number is rounded at that place.
-/
def roundRatio (num den : Nat) : Nat :=
  let scaled := num <<< 1074
  let shift := (scaled / den).log2 - 52
  min (shift * binade + roundHalfEven scaled (den <<< shift)) infinite

/--
The magnitude nearest to a decimal.  A decimal with its first digit far above or far below those
of all doubles is infinite or zero, and its power of ten is not formed.
-/
def roundDecimal (d : Decimal) : Nat :=
  let lead := d.leadingExponent
  if d.coefficient = 0 then 0
  else if 400 < lead then infinite
  else if lead < -400 then 0
  else if 0 ≤ d.exponent then roundRatio (d.coefficient * Nat.pow 10 d.exponent.toNat) 1
  else roundRatio d.coefficient (Nat.pow 10 d.exponent.natAbs)

/-- The double nearest to a decimal with a given sign. -/
def ofDecimal (negative : Bool) (d : Decimal) : Binary64 :=
  ofMagnitude negative (roundDecimal d.normal)

/-- The double nearest to a whole number. -/
def ofInt (n : Int) : Binary64 := ofMagnitude (n < 0) (roundRatio n.natAbs 1)

end FilterQuery.Binary64
