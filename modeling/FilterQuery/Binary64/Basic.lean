/-!
# Double-precision numbers

A `Binary64` is a number of the IEEE 754 format, kept as its 64 bits, so that two of them are
equal when they are the same number with the same sign of zero.  The bits below the sign are the
magnitude; among finite numbers the magnitudes are ordered as the numbers they stand for.  A
finite magnitude stands for a whole number of units of `2 ^ -1074`, its `units`.
-/

namespace FilterQuery

/-- A double-precision number, by its bits. -/
structure Binary64 where
  bits : UInt64
deriving DecidableEq

namespace Binary64

/-- The place of the sign, and the number of magnitudes. -/
def signPlace : Nat := 0x8000000000000000

/-- The magnitude of the infinities.  The finite magnitudes are below it, those that stand for no
number above it. -/
def infinite : Nat := 0x7FF0000000000000

/-- The number with a given sign and magnitude. -/
def ofMagnitude (negative : Bool) (magnitude : Nat) : Binary64 :=
  ⟨UInt64.ofNat (if negative then signPlace + magnitude else magnitude)⟩

/-- Whether the sign is negative. -/
def isNegative (x : Binary64) : Bool := signPlace ≤ x.bits.toNat

/-- The bits below the sign. -/
def magnitude (x : Binary64) : Nat := x.bits.toNat % signPlace

/-- Whether a number is neither infinite nor without a value. -/
def isFinite (x : Binary64) : Bool := x.magnitude < infinite

/-- Whether the bits stand for no number. -/
def isNaN (x : Binary64) : Bool := infinite < x.magnitude

/-- The number of magnitudes from one doubling of the unit in the last place to the next. -/
def binade : Nat := 0x10000000000000

/-- The number of doublings of the unit in the last place of a magnitude. -/
def shift (magnitude : Nat) : Nat := magnitude / binade - 1

/-- The number a finite magnitude stands for, in units of `2 ^ -1074`. -/
def units (magnitude : Nat) : Nat :=
  (magnitude - shift magnitude * binade) <<< shift magnitude

/-- A value that is not a number. -/
def nan : Binary64 := ofMagnitude false 0x7FF8000000000000

/-- Infinity with a given sign. -/
def infinity (negative : Bool) : Binary64 := ofMagnitude negative infinite

end Binary64

end FilterQuery
