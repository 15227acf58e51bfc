import FilterQuery.Calendar.Instant
import FilterQuery.Proofs.Calendar.Order

/-!
# The time that has passed

`Instant.nanos` is the time from the start of 1970 to an instant, in nanoseconds.  The milliseconds
of an instant are the whole ones of this time, also before 1970.  They keep the order of instants
outside leap seconds, and they are computed within 64 bits.
-/

namespace FilterQuery.Calendar

/-! ### Instants -/

namespace Instant

variable {t u : Instant} {d : Date}

/-- The nanoseconds from the start of 1970 to an instant.  A leap second counts as the second after
it. -/
def nanos (t : Instant) : Int := (t.date.dayNumber * 86400 + t.second) * 1000000000 + t.nano

/-- The start of a date. -/
def midnight (d : Date) : Instant := ⟨d, 0, 0, by decide⟩

theorem millis_midnight (d : Date) :
  (midnight d).millis = d.millis
  := by
  simp [millis, midnight, Date.millis]

/-- The milliseconds of an instant are the whole ones of its time, rounded down. -/
theorem millis_eq (t : Instant) :
  t.millis = t.nanos / 1000000
  := by
  rw [millis, nanos]
  omega

/-- An instant outside leap seconds lies in its date. -/
theorem millis_inDate (plain : t.isLeap = false) :
  t.date.millis ≤ t.millis ∧ t.millis < t.date.millis + 86400000
  := by
  have second := t.isTime.1
  have nano : t.nano < 1000000000 := by simpa [isLeap] using plain
  rw [millis, Date.millis]
  omega

/-! ### The order -/

/-- Instants are ordered by date, second and nanosecond. -/
instance : LT Instant where
  lt t u := t.date < u.date
    ∨ t.date = u.date ∧ (t.second < u.second ∨ t.second = u.second ∧ t.nano < u.nano)

instance : LE Instant where
  le t u := ¬ u < t

instance (t u : Instant) : Decidable (t < u) := inferInstanceAs (Decidable (_ ∨ _))

instance (t u : Instant) : Decidable (t ≤ u) := inferInstanceAs (Decidable (¬ _))

theorem lt_iff :
  t < u
    ↔ t.date.dayNumber < u.date.dayNumber
      ∨ t.date.dayNumber = u.date.dayNumber
        ∧ (t.second < u.second ∨ t.second = u.second ∧ t.nano < u.nano)
  := by
  have sameDate : t.date = u.date ↔ t.date.dayNumber = u.date.dayNumber :=
    ⟨congrArg Date.dayNumber, Date.eq_of_dayNumber_eq⟩
  rw [← Date.lt_iff_dayNumber_lt, ← sameDate]
  rfl

/-- No more time has passed at an instant outside leap seconds than at a later instant. -/
theorem nanos_le_nanos (plain : t.isLeap = false) (h : t ≤ u) :
  t.nanos ≤ u.nanos
  := by
  have second := t.isTime.1
  have nano : t.nano < 1000000000 := by simpa [isLeap] using plain
  have notBefore : ¬ u < t := h
  rw [lt_iff] at notBefore
  rw [nanos, nanos]
  omega

/-- An instant outside leap seconds is not before the start of a date exactly when its date is not
before it. -/
theorem millis_le_millis_iff (plain : t.isLeap = false) :
  d.millis ≤ t.millis ↔ d ≤ t.date
  := by
  have inDate := millis_inDate plain
  rw [Date.le_iff_dayNumber_le]
  rw [Date.millis] at inDate ⊢
  omega

end Instant

/-! ### Arithmetic in 64 bits -/

/-- A whole number that has a place in 64 bits. -/
def inWord? (n : Int) : Option Int :=
  if Int64.minValue.toInt ≤ n ∧ n ≤ Int64.maxValue.toInt then some n else none

/-- The number of a date, if no intermediate result leaves the 64 bits. -/
def Date.dayNumberInWord? (d : Date) : Option Int := do
  let past ← inWord? (d.year - 1)
  let common ← inWord? (365 * past)
  let fourth ← inWord? (common + past / 4)
  let hundredth ← inWord? (fourth - past / 100)
  let fourHundredth ← inWord? (hundredth + past / 400)
  let year ← inWord? (fourHundredth - 719162)
  let month ← inWord? (year + daysBeforeMonth d.year d.month)
  let day ← inWord? (month + d.day)
  inWord? (day - 1)

/-- The milliseconds of an instant, if no intermediate result leaves the 64 bits. -/
def Instant.millisInWord? (t : Instant) : Option Int := do
  let days ← t.date.dayNumberInWord?
  let midnight ← inWord? (days * 86400)
  let seconds ← inWord? (midnight + t.second)
  let whole ← inWord? (seconds * 1000)
  inWord? (whole + t.nano / 1000000)

theorem inWord?_eq_some {n : Int} (least : -1000000000000000000 ≤ n)
    (most : n ≤ 1000000000000000000) :
  inWord? n = some n
  := by
  have bounds : Int64.minValue.toInt = -9223372036854775808
      ∧ Int64.maxValue.toInt = 9223372036854775807 := by decide
  rw [inWord?, if_pos]
  omega

/-- Dates are within a hundred million days of 1970. -/
theorem Date.dayNumber_bounds (d : Date) :
  -100000000 ≤ d.dayNumber ∧ d.dayNumber ≤ 100000000
  := by
  obtain ⟨first, last⟩ := d.dayNumber_inYear
  obtain ⟨least, most⟩ := d.isDate.1
  rw [daysBeforeYear_eq] at first last
  omega

theorem Date.dayNumberInWord?_eq (d : Date) :
  d.dayNumberInWord? = some d.dayNumber
  := by
  obtain ⟨least, most⟩ := d.isDate.1
  have inYear : daysBeforeMonth d.year d.month + d.day ≤ 366 := by
    obtain ⟨first, last⟩ := d.dayNumber_inYear
    simp only [dayNumber_eq, daysBeforeYear_eq] at first last
    omega
  rw [dayNumber_eq, daysBeforeYear_eq, dayNumberInWord?]
  generalize daysBeforeMonth d.year d.month = month at inYear
  generalize d.year = year at least most
  generalize d.day = day at inYear
  simp (disch := omega) only [inWord?_eq_some, Option.bind_eq_bind, Option.bind_some]

/-- The milliseconds of an instant are computed within 64 bits. -/
theorem Instant.millisInWord?_eq (t : Instant) :
  t.millisInWord? = some t.millis
  := by
  obtain ⟨least, most⟩ := t.date.dayNumber_bounds
  obtain ⟨second, nano, -⟩ := t.isTime
  rw [millisInWord?, t.date.dayNumberInWord?_eq]
  simp (disch := omega) only [inWord?_eq_some, Option.bind_eq_bind, Option.bind_some, millis]
  congr 1
  omega

end FilterQuery.Calendar
