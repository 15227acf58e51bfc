import FilterQuery.Decimal.Basic

/-!
# Notation for decimal numbers

A decimal is written either with all its places, as in `0.0025`, or with an exponent, as in
`2.5e-3`.  A `Style` says for which exponents the places are written out and whether a
whole number shows a point.
-/

namespace FilterQuery.Decimal

/-- The choices a format makes between the ways to write a decimal. -/
structure Style where
  /-- Whether a number with this exponent after its first digit has its places written out. -/
  isPositional : Int → Bool
  /-- Whether a whole number ends in `.0`. -/
  showsPoint : Bool

/-- All places of a decimal. -/
def positional (showsPoint : Bool) (d : Decimal) : List Char :=
  let lead := d.leadingExponent
  if 0 ≤ d.exponent then
    d.digits ++ List.replicate d.exponent.toNat '0' ++ (if showsPoint then ['.', '0'] else [])
  else if 0 ≤ lead then
    d.digits.take (lead.toNat + 1) ++ '.' :: d.digits.drop (lead.toNat + 1)
  else
    '0' :: '.' :: List.replicate (-lead - 1).toNat '0' ++ d.digits

/-- The digits of a decimal with a point after the first, and the exponent after a sign. -/
def scientific (d : Decimal) : List Char :=
  let lead := d.leadingExponent
  let mantissa :=
    match d.digits with
    | first :: second :: rest => first :: '.' :: second :: rest
    | short => short
  let sign := if 0 ≤ lead then '+' else '-'
  mantissa ++ 'e' :: sign :: Nat.toDigits 10 lead.natAbs

/-- The text of a decimal in a style. -/
def write (style : Style) (d : Decimal) : List Char :=
  if style.isPositional d.leadingExponent then positional style.showsPoint d else scientific d

end FilterQuery.Decimal
