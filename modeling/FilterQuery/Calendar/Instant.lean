import FilterQuery.Calendar.Date

/-!
# Instants

An `Instant` is a point in universal time, to the nanosecond.  A leap second is the second after
the 59th of its minute; it is kept as the 59th with a second more of nanoseconds.
-/

namespace FilterQuery.Calendar

/-- The conditions on the second of the day and the nanosecond of an instant. -/
def IsTime (second nano : Nat) : Prop :=
  second < 86400 ∧ nano < 2000000000 ∧ (1000000000 ≤ nano → second % 60 = 59)

instance (second nano : Nat) : Decidable (IsTime second nano) :=
  inferInstanceAs (Decidable (_ ∧ _))

/-- A point in universal time. -/
structure Instant where
  date : Date
  /-- The second of the day. -/
  second : Nat
  /-- The nanosecond of the second, from 10⁹ on within a leap second. -/
  nano : Nat
  isTime : IsTime second nano
deriving DecidableEq

namespace Instant

/-- Whether an instant lies in a leap second. -/
def isLeap (t : Instant) : Bool := 1000000000 ≤ t.nano

/-- The whole milliseconds from the start of 1970 to an instant, rounded down.  A leap second counts
as the second after it. -/
def millis (t : Instant) : Int :=
  t.date.dayNumber * 86400000 + t.second * 1000 + t.nano / 1000000

/--
The instant shown by a clock that is `offset` seconds ahead of universal time, on the given date at
the given second and nanosecond.
-/
def ofLocal? (date : Date) (second nano : Nat) (offset : Int) : Option Instant := do
  let total := date.dayNumber * 86400 + second - offset
  let day ← Date.ofDayNumber? (total / 86400)
  let left := (total % 86400).toNat
  if h : IsTime left nano then some ⟨day, left, nano, h⟩ else none

end Instant

end FilterQuery.Calendar
