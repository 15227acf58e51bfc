import FilterQuery.Binary64.Rounding

/-!
# The shortest decimal of a double

`shortest` is the decimal with the fewest digits that rounds to a given finite magnitude, and of
those the nearest to it.  It is sought on the grids of one digit, two digits and so on; on each
grid only the two neighbours of the number can be meant.  Seventeen digits are enough for every
double; the decimal with all the digits of the number stands at the end of the search.
-/

namespace FilterQuery.Binary64

/-- The choice between two decimals equally near to a number. -/
inductive Tie where
  /-- The one with an even coefficient. -/
  | toEven
  /-- The larger one. -/
  | up
deriving DecidableEq

/-- The decimal that is exactly `units * 2 ^ -1074`. -/
def exactDecimal (magnitude : Nat) : Decimal :=
  Decimal.normal ⟨units magnitude * Nat.pow 5 1074, -1074⟩

/-- The exponent of a finite magnitude other than zero, written with one digit before the point. -/
def leadingExponent (magnitude : Nat) : Int :=
  (Nat.toDigits 10 ((units magnitude * Nat.pow 10 324) >>> 1074)).length - 325

/--
The decimal with `count` digits for a magnitude whose leading exponent is `lead`: the nearer of its
two neighbours on that grid, or the other one if only that rounds back.
-/
def shortestWith (tie : Tie) (magnitude : Nat) (lead : Int) (count : Nat) : Option Decimal :=
  let exponent := lead - count + 1
  let power := Nat.pow 10 exponent.natAbs
  let num := if 0 ≤ exponent then units magnitude else units magnitude * power
  let den := if 0 ≤ exponent then power <<< 1074 else 1 <<< 1074
  let below := num / den
  let twice := 2 * (num % den)
  let low := Decimal.normal ⟨below, exponent⟩
  let high := Decimal.normal ⟨below + 1, exponent⟩
  let prefersLow := twice < den || (twice == den && tie == .toEven && below % 2 == 0)
  let nearer := if prefersLow then low else high
  let farther := if prefersLow then high else low
  if roundDecimal nearer = magnitude then some nearer
  else if roundDecimal farther = magnitude then some farther
  else none

/-- The shortest decimal of a finite magnitude. -/
def shortest (tie : Tie) (magnitude : Nat) : Decimal :=
  if magnitude = 0 then ⟨0, 0⟩
  else
    let lead := leadingExponent magnitude
    ((List.range 17).findSome? fun i => shortestWith tie magnitude lead (i + 1)).getD
      (exactDecimal magnitude)

end FilterQuery.Binary64
