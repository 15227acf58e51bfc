/-!
# Calendar dates

A `Date` is a day of the Gregorian calendar, extended to all years from -262143 to 262142; the
year before 1 is 0.  `Date.dayNumber` counts the days from 1970-01-01, and `dateOfDayNumber` finds
the year, month and day of a count.
-/

namespace FilterQuery.Calendar

/-- Whether a year has a 29th of February. -/
def isLeapYear (year : Int) : Bool :=
  year % 4 == 0 && (year % 100 != 0 || year % 400 == 0)

/-- The number of days of a month, for months from 1 to 12. -/
def daysInMonth (year : Int) (month : Nat) : Nat :=
  if month = 2 then if isLeapYear year then 29 else 28
  else if month = 4 ∨ month = 6 ∨ month = 9 ∨ month = 11 then 30
  else 31

/-- The lengths of the twelve months of a year. -/
def monthLengths (year : Int) : List Nat :=
  (List.range 12).map fun i => daysInMonth year (i + 1)

/-- The years that dates can have. -/
def IsYear (year : Int) : Prop := -262143 ≤ year ∧ year ≤ 262142

/-- The conditions on the year, month and day of a date. -/
def IsDate (year : Int) (month day : Nat) : Prop :=
  IsYear year ∧ (1 ≤ month ∧ month ≤ 12) ∧ 1 ≤ day ∧ day ≤ daysInMonth year month

instance (year : Int) : Decidable (IsYear year) :=
  inferInstanceAs (Decidable (_ ∧ _))

instance (year : Int) (month day : Nat) : Decidable (IsDate year month day) :=
  inferInstanceAs (Decidable (_ ∧ _))

/-- The number of days before the first of January of a year, from 1970-01-01 on. -/
def daysBeforeYear (year : Int) : Int :=
  let p := year - 1
  365 * p + p / 4 - p / 100 + p / 400 - 719162

/-- The number of days of a year before the first of a month. -/
def daysBeforeMonth (year : Int) (month : Nat) : Nat :=
  ((monthLengths year).take (month - 1)).foldr (· + ·) 0

/-- The days from 1970-01-01 to a year, month and day. -/
def dayNumber (year : Int) (month day : Nat) : Int :=
  daysBeforeYear year + daysBeforeMonth year month + day - 1

/-- The number of months passed, and the days left, on a day of a year counted from 0. -/
def splitMonths : List Nat → Nat → Nat × Nat
  | [], days => (0, days)
  | length :: rest, days =>
    if days < length then (0, days)
    else
      let (months, left) := splitMonths rest (days - length)
      (months + 1, left)

/-- The year of a day.  The mean length of a year gives it up to one. -/
def yearOfDayNumber (n : Int) : Int :=
  let guess := (n + 719162) * 400 / 146097 + 1
  if n < daysBeforeYear guess then guess - 1
  else if daysBeforeYear (guess + 1) ≤ n then guess + 1
  else guess

/-- The year, month and day of a day counted from 1970-01-01. -/
def dateOfDayNumber (n : Int) : Int × Nat × Nat :=
  let year := yearOfDayNumber n
  let (months, left) := splitMonths (monthLengths year) (n - daysBeforeYear year).toNat
  (year, months + 1, left + 1)

/-- A day of the calendar. -/
structure Date where
  year : Int
  month : Nat
  day : Nat
  isDate : IsDate year month day
deriving DecidableEq

namespace Date

/-- The date with a given year, month and day, if there is one. -/
def ofFields? (year : Int) (month day : Nat) : Option Date :=
  if h : IsDate year month day then some ⟨year, month, day, h⟩ else none

/-- The days from 1970-01-01 to a date. -/
def dayNumber (d : Date) : Int := Calendar.dayNumber d.year d.month d.day

/-- The date of a day counted from 1970-01-01, if its year is one of those of dates. -/
def ofDayNumber? (n : Int) : Option Date :=
  let (year, month, day) := dateOfDayNumber n
  ofFields? year month day

/-- The milliseconds from the start of 1970 to the start of a date. -/
def millis (d : Date) : Int := d.dayNumber * 86400000

end Date

end FilterQuery.Calendar
