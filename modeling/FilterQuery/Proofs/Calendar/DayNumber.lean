import FilterQuery.Calendar.Date
import Mathlib.Tactic.Ring

/-!
# Days by number

The days of a year are numbered one after the other, month after month, from the day before which
`daysBeforeYear` days lie.  So the year, the month and the day of a date are found again from its
number.
-/

namespace FilterQuery.Calendar

/-! ### Months -/

section Months

variable {lengths : List Nat} {months left : Nat}

/-- A day within a month is found after the months before it. -/
theorem splitMonths_sum_take (inside : months < lengths.length) (h : left < lengths[months]) :
  splitMonths lengths ((lengths.take months).sum + left) = (months, left)
  := by
  induction lengths generalizing months with
  | nil => cases inside
  | cons length rest ih =>
    cases months with
    | zero =>
      rw [List.getElem_cons_zero] at h
      rw [List.take_zero, List.sum_nil, Nat.zero_add, splitMonths, if_pos h]
    | succ months =>
      have later : ¬ length + (rest.take months).sum + left < length := by omega
      have days : length + (rest.take months).sum + left - length
          = (rest.take months).sum + left := by omega
      rw [List.take_succ_cons, List.sum_cons, splitMonths, if_neg later, days,
        ih (Nat.lt_of_succ_lt_succ inside) h]

/-- A day within a month comes before the end of the year. -/
theorem sum_take_add_lt (inside : months < lengths.length) (h : left < lengths[months]) :
  (lengths.take months).sum + left < lengths.sum
  := by
  induction lengths generalizing months with
  | nil => cases inside
  | cons length rest ih =>
    cases months with
    | zero =>
      rw [List.take_zero, List.sum_nil, Nat.zero_add, List.sum_cons]
      apply Nat.lt_add_right _ h
    | succ months =>
      have later := ih (Nat.lt_of_succ_lt_succ inside) h
      rw [List.take_succ_cons, List.sum_cons, List.sum_cons]
      omega

end Months

theorem length_monthLengths (year : Int) :
  (monthLengths year).length = 12
  := by
  simp [monthLengths]

/-! ### Years -/

theorem daysBeforeYear_eq (year : Int) :
  daysBeforeYear year
    = 365 * (year - 1) + (year - 1) / 4 - (year - 1) / 100 + (year - 1) / 400 - 719162
  := rfl

/-- The year after a year begins when the months of the year have passed. -/
theorem daysBeforeYear_succ (year : Int) :
  daysBeforeYear (year + 1) = daysBeforeYear year + (monthLengths year).sum
  := by
  have total : ((monthLengths year).sum : Int) = if isLeapYear year then 366 else 365 := by
    by_cases leap : isLeapYear year <;> simp [monthLengths, daysInMonth, leap, List.range_succ]
  have leap : isLeapYear year = true
      ↔ year % 4 = 0 ∧ (year % 100 ≠ 0 ∨ year % 400 = 0) := by
    simp [isLeapYear]
  rw [total, daysBeforeYear_eq, daysBeforeYear_eq]
  split
  case isTrue h =>
    rw [leap] at h
    omega
  case isFalse h =>
    rw [leap] at h
    omega

/-- The year of a day is the one it lies in. -/
theorem yearOfDayNumber_eq {year n : Int} (first : daysBeforeYear year ≤ n)
    (last : n < daysBeforeYear (year + 1)) :
  yearOfDayNumber n = year
  := by
  have near : (n + 719162) * 400 / 146097 + 1 = year - 1
      ∨ (n + 719162) * 400 / 146097 + 1 = year ∨ (n + 719162) * 400 / 146097 + 1 = year + 1 := by
    rw [daysBeforeYear_eq] at first last
    omega
  have before : daysBeforeYear (year - 1) < daysBeforeYear year := by
    rw [daysBeforeYear_eq, daysBeforeYear_eq]
    omega
  rw [yearOfDayNumber]
  rcases near with early | exact | late
  · rw [early, if_neg (by omega), if_pos (by rwa [Int.sub_add_cancel]), Int.sub_add_cancel]
  · rw [exact, if_neg (by omega), if_neg (by omega)]
  · rw [late, if_pos last, Int.add_sub_cancel]

/-! ### Dates -/

theorem getElem_monthLengths {year : Int} {month : Nat} (h : month < (monthLengths year).length) :
  (monthLengths year)[month] = daysInMonth year (month + 1)
  := by
  simp [monthLengths]

/-- The year, month and day of a date are found from its number. -/
theorem dateOfDayNumber_dayNumber (d : Date) :
  dateOfDayNumber d.dayNumber = (d.year, d.month, d.day)
  := by
  obtain ⟨-, ⟨month, twelve⟩, day, last⟩ := d.isDate
  have inside : d.month - 1 < (monthLengths d.year).length := by
    rw [length_monthLengths]
    omega
  have h : d.day - 1 < (monthLengths d.year)[d.month - 1] := by
    rw [getElem_monthLengths inside, Nat.sub_add_cancel month]
    omega
  have passed : d.dayNumber
      = daysBeforeYear d.year + ((monthLengths d.year).take (d.month - 1)).sum
        + (d.day - 1 : Nat) := by
    rw [Date.dayNumber, dayNumber, daysBeforeMonth, ← List.sum_eq_foldr]
    omega
  have inYear := sum_take_add_lt inside h
  have year : yearOfDayNumber d.dayNumber = d.year := by
    apply yearOfDayNumber_eq
    · omega
    · rw [daysBeforeYear_succ]
      omega
  have days : (d.dayNumber - daysBeforeYear d.year).toNat
      = ((monthLengths d.year).take (d.month - 1)).sum + (d.day - 1) := by omega
  rw [dateOfDayNumber, year, days, splitMonths_sum_take inside h]
  simp only
  rw [Nat.sub_add_cancel month, Nat.sub_add_cancel day]

theorem Date.ofFields?_fields (d : Date) :
  ofFields? d.year d.month d.day = some d
  := by
  rw [ofFields?, dif_pos d.isDate]

/-- A date is found again from its number. -/
theorem Date.ofDayNumber?_dayNumber (d : Date) :
  ofDayNumber? d.dayNumber = some d
  := by
  rw [ofDayNumber?, dateOfDayNumber_dayNumber]
  apply ofFields?_fields

end FilterQuery.Calendar
