import FilterQuery.Proofs.Calendar.DayNumber
import Mathlib.Algebra.BigOperators.Group.List.Basic

/-!
# The order of dates

Dates come one after the other, day by day: `Date.next?` is the day after a date, and the calendar
ends where there is none.  They are ordered by year, month and day.  The number of a date counts
the days from 1970-01-01 on, and a date comes before another exactly when its number is less.
-/

namespace FilterQuery.Calendar

/-! ### Days of a year -/

theorem daysBeforeMonth_eq (year : Int) (month : Nat) :
  daysBeforeMonth year month = ((monthLengths year).take (month - 1)).sum
  := by
  rw [daysBeforeMonth, List.sum_eq_foldr]

/-- A month begins when the month before it has passed. -/
theorem daysBeforeMonth_succ (year : Int) {month : Nat} (first : 1 ≤ month) (last : month ≤ 12) :
  daysBeforeMonth year (month + 1) = daysBeforeMonth year month + daysInMonth year month
  := by
  have inside : month - 1 < (monthLengths year).length := by
    rw [length_monthLengths]
    omega
  have next : month + 1 - 1 = month - 1 + 1 := by omega
  rw [daysBeforeMonth_eq, daysBeforeMonth_eq, next, List.sum_take_succ _ _ inside,
    getElem_monthLengths, Nat.sub_add_cancel first]

/-- A month has passed when a later one of the year begins. -/
theorem daysBeforeMonth_add_le (year : Int) {month later : Nat} (first : 1 ≤ month)
    (less : month < later) (last : later ≤ 12) :
  daysBeforeMonth year month + daysInMonth year month ≤ daysBeforeMonth year later
  := by
  induction less with
  | refl => rw [daysBeforeMonth_succ year first (Nat.le_of_succ_le last)]
  | @step later less ih =>
    have inYear : later ≤ 12 := Nat.le_of_succ_le last
    have begins := daysBeforeMonth_succ year (Nat.le_trans first (Nat.le_of_lt less)) inYear
    have passed := ih inYear
    rw [Nat.succ_eq_add_one, begins]
    omega

/-- The year after a year begins when its last month has passed. -/
theorem daysBeforeYear_succ_eq (year : Int) :
  daysBeforeYear (year + 1)
    = daysBeforeYear year + (daysBeforeMonth year 12 + daysInMonth year 12 : Nat)
  := by
  have all : (monthLengths year).take (13 - 1) = monthLengths year := by
    rw [List.take_of_length_le]
    rw [length_monthLengths]
  rw [daysBeforeYear_succ, ← daysBeforeMonth_succ year (by decide) (by decide), daysBeforeMonth_eq,
    all]

theorem daysBeforeYear_le {year later : Int} (h : year ≤ later) :
  daysBeforeYear year ≤ daysBeforeYear later
  := by
  rw [daysBeforeYear_eq, daysBeforeYear_eq]
  omega

theorem daysInMonth_pos (year : Int) (month : Nat) :
  0 < daysInMonth year month
  := by
  unfold daysInMonth
  split
  · split <;> decide
  · split <;> decide

namespace Date

variable {d e : Date}

/-- The number of a date, by its year, month and day. -/
theorem dayNumber_eq (d : Date) :
  d.dayNumber = daysBeforeYear d.year + daysBeforeMonth d.year d.month + d.day - 1
  := rfl

/-- A date lies in its year. -/
theorem dayNumber_inYear (d : Date) :
  daysBeforeYear d.year ≤ d.dayNumber ∧ d.dayNumber < daysBeforeYear (d.year + 1)
  := by
  obtain ⟨-, ⟨month, twelve⟩, day, last⟩ := d.isDate
  have inYear : daysBeforeMonth d.year d.month + daysInMonth d.year d.month
      ≤ daysBeforeMonth d.year 12 + daysInMonth d.year 12 := by
    rcases Nat.lt_or_eq_of_le twelve with less | same
    · have passed := daysBeforeMonth_add_le d.year month less (Nat.le_refl 12)
      omega
    · rw [same]
  rw [dayNumber_eq, daysBeforeYear_succ_eq]
  omega

/-! ### The order -/

/-- Dates are ordered by year, month and day. -/
instance : LT Date where
  lt d e := d.year < e.year
    ∨ d.year = e.year ∧ (d.month < e.month ∨ d.month = e.month ∧ d.day < e.day)

instance : LE Date where
  le d e := ¬ e < d

instance (d e : Date) : Decidable (d < e) := inferInstanceAs (Decidable (_ ∨ _))

instance (d e : Date) : Decidable (d ≤ e) := inferInstanceAs (Decidable (¬ _))

theorem lt_iff :
  d < e
    ↔ d.year < e.year
      ∨ d.year = e.year ∧ (d.month < e.month ∨ d.month = e.month ∧ d.day < e.day)
  := Iff.rfl

theorem lt_or_eq_or_gt (d e : Date) :
  d < e ∨ d = e ∨ e < d
  := by
  obtain ⟨year, month, day, h⟩ := d
  obtain ⟨year', month', day', h'⟩ := e
  rw [lt_iff, lt_iff, mk.injEq]
  dsimp only
  omega

/-- A date before another has a smaller number. -/
theorem dayNumber_lt_of_lt (h : d < e) :
  d.dayNumber < e.dayNumber
  := by
  obtain ⟨-, ⟨month, -⟩, -, last⟩ := d.isDate
  obtain ⟨-, ⟨-, twelve⟩, first, -⟩ := e.isDate
  rcases h with before | ⟨year, before | ⟨same, before⟩⟩
  · calc
      d.dayNumber < daysBeforeYear (d.year + 1) := d.dayNumber_inYear.2
      _ ≤ daysBeforeYear e.year := daysBeforeYear_le before
      _ ≤ e.dayNumber := e.dayNumber_inYear.1
  · have passed := daysBeforeMonth_add_le d.year month before twelve
    rw [dayNumber_eq, dayNumber_eq, ← year]
    omega
  · rw [dayNumber_eq, dayNumber_eq, year, same]
    omega

/-- The order of dates is that of their numbers. -/
theorem lt_iff_dayNumber_lt :
  d < e ↔ d.dayNumber < e.dayNumber
  := by
  constructor
  · apply dayNumber_lt_of_lt
  · intro less
    rcases lt_or_eq_or_gt d e with before | same | after
    · apply before
    · rw [same] at less
      omega
    · have greater := dayNumber_lt_of_lt after
      omega

theorem le_iff_dayNumber_le :
  d ≤ e ↔ d.dayNumber ≤ e.dayNumber
  := by
  rw [← Int.not_lt, ← lt_iff_dayNumber_lt]
  rfl

/-- Dates of the same number are the same. -/
theorem eq_of_dayNumber_eq (h : d.dayNumber = e.dayNumber) :
  d = e
  := by
  have found := ofDayNumber?_dayNumber d
  rw [h, ofDayNumber?_dayNumber] at found
  exact (Option.some.inj found).symm

/-! ### The day after -/

/-- The day after a date: the next day of its month, or else the first of the next month, or else
the first of the next year.  There is none when the calendar ends. -/
def next? (d : Date) : Option Date :=
  (ofFields? d.year d.month (d.day + 1)).or
    ((ofFields? d.year (d.month + 1) 1).or (ofFields? (d.year + 1) 1 1))

theorem ofFields?_eq_some_iff {year : Int} {month day : Nat} :
  ofFields? year month day = some d ↔ d.year = year ∧ d.month = month ∧ d.day = day
  := by
  obtain ⟨year', month', day', h⟩ := d
  constructor
  · intro found
    unfold ofFields? at found
    split at found
    · cases found
      exact ⟨rfl, rfl, rfl⟩
    · cases found
  · rintro ⟨rfl, rfl, rfl⟩
    apply dif_pos h

theorem ofFields?_eq_none_iff {year : Int} {month day : Nat} :
  ofFields? year month day = none ↔ ¬ IsDate year month day
  := by
  unfold ofFields?
  split <;> simp [*]

/-- A date that has no next day in its month is the last day of the month. -/
theorem day_eq_of_none (h : ofFields? d.year d.month (d.day + 1) = none) :
  d.day = daysInMonth d.year d.month
  := by
  obtain ⟨year, month, day, last⟩ := d.isDate
  rw [ofFields?_eq_none_iff] at h
  by_contra different
  exact h ⟨year, month, by omega, by omega⟩

/-- A date that has no next month in its year is in the last month of the year. -/
theorem month_eq_of_none (h : ofFields? d.year (d.month + 1) 1 = none) :
  d.month = 12
  := by
  obtain ⟨year, month, day, last⟩ := d.isDate
  rw [ofFields?_eq_none_iff] at h
  by_contra different
  exact h ⟨year, by omega, Nat.le_refl 1, daysInMonth_pos _ _⟩

/-- The day after a date has the next number. -/
theorem dayNumber_next (h : d.next? = some e) :
  e.dayNumber = d.dayNumber + 1
  := by
  obtain ⟨-, ⟨month, twelve⟩, -, -⟩ := d.isDate
  rcases Option.or_eq_some_iff.1 h with inMonth | ⟨endsMonth, h⟩
  · obtain ⟨year, month, day⟩ := ofFields?_eq_some_iff.1 inMonth
    rw [dayNumber_eq, dayNumber_eq, year, month, day]
    omega
  have day := day_eq_of_none endsMonth
  rcases Option.or_eq_some_iff.1 h with inYear | ⟨endsYear, h⟩
  · obtain ⟨year', month', day'⟩ := ofFields?_eq_some_iff.1 inYear
    have twelve' := e.isDate.2.1.2
    rw [dayNumber_eq, dayNumber_eq, year', month', day', day,
      daysBeforeMonth_succ d.year month twelve]
    omega
  · have december := month_eq_of_none endsYear
    obtain ⟨year', month', day'⟩ := ofFields?_eq_some_iff.1 h
    have january : daysBeforeMonth (d.year + 1) 1 = 0 := rfl
    rw [dayNumber_eq, dayNumber_eq, year', month', day', january, day, december,
      daysBeforeYear_succ_eq]
    omega

/-- A date without a day after it is the last one. -/
theorem not_lt_of_next?_eq_none (h : d.next? = none) (e : Date) :
  ¬ d < e
  := by
  obtain ⟨endsMonth, h⟩ := Option.or_eq_none_iff.1 h
  obtain ⟨endsYear, ends⟩ := Option.or_eq_none_iff.1 h
  have day := day_eq_of_none endsMonth
  have december := month_eq_of_none endsYear
  have year : d.year = 262142 := by
    obtain ⟨inYears, -, -, -⟩ := d.isDate
    rw [ofFields?_eq_none_iff] at ends
    by_contra different
    refine ends ⟨?_, by decide, Nat.le_refl 1, daysInMonth_pos _ _⟩
    unfold IsYear at inYears ⊢
    omega
  obtain ⟨inYears, ⟨-, twelve⟩, -, last⟩ := e.isDate
  unfold IsYear at inYears
  rintro (later | ⟨same, later | ⟨sameMonth, later⟩⟩)
  · omega
  · omega
  · rw [← same, ← sameMonth, ← day] at last
    omega

/-! ### Days from one date to another -/

/-- The date some days after a date, if the calendar goes so far. -/
def after? (d : Date) : Nat → Option Date
  | 0 => some d
  | days + 1 => d.next?.bind fun e => e.after? days

/-- Whether the days from one date to another are so many; when the other comes first, their number
is negative. -/
def IsDaysTo (d e : Date) : Int → Prop
  | .ofNat days => d.after? days = some e
  | .negSucc days => e.after? (days + 1) = some d

theorem after?_eq_some_iff {days : Nat} :
  d.after? days = some e ↔ e.dayNumber = d.dayNumber + days
  := by
  induction days generalizing d with
  | zero =>
    rw [after?, Option.some.injEq]
    constructor
    · rintro rfl
      omega
    · intro same
      apply eq_of_dayNumber_eq
      omega
  | succ days ih =>
    rw [after?]
    cases h : d.next? with
    | none =>
      have last := not_lt_of_next?_eq_none h e
      rw [lt_iff_dayNumber_lt] at last
      simp only [Option.bind_none, reduceCtorEq, false_iff]
      omega
    | some f =>
      rw [Option.bind_some, ih, dayNumber_next h]
      omega

/-- The days from one date to another are the difference of their numbers. -/
theorem isDaysTo_iff {days : Int} :
  d.IsDaysTo e days ↔ e.dayNumber = d.dayNumber + days
  := by
  cases days with
  | ofNat days =>
    rw [IsDaysTo, after?_eq_some_iff]
    rfl
  | negSucc days =>
    rw [IsDaysTo, after?_eq_some_iff, Int.negSucc_eq]
    omega

/-- The first of January 1970. -/
def epoch : Date := ⟨1970, 1, 1, by decide⟩

/-- The number of a date is that of the days from 1970-01-01 to it. -/
theorem isDaysTo_epoch_iff {days : Int} :
  epoch.IsDaysTo d days ↔ days = d.dayNumber
  := by
  have zero : epoch.dayNumber = 0 := by decide
  rw [isDaysTo_iff, zero, Int.zero_add, eq_comm]

/-- The last date of the calendar. -/
def last : Date := ⟨262142, 12, 31, by decide⟩

/-- All days from 1970-01-01 to the last date are dates. -/
theorem exists_dayNumber_eq {n : Nat} (h : n ≤ last.dayNumber) :
  ∃ d : Date, d.dayNumber = n
  := by
  induction n with
  | zero =>
    use epoch
    decide
  | succ n ih =>
    obtain ⟨d, number⟩ := ih (by omega)
    cases next : d.next? with
    | none =>
      have ends := not_lt_of_next?_eq_none next last
      rw [lt_iff_dayNumber_lt, number] at ends
      omega
    | some e =>
      use e
      rw [dayNumber_next next, number]
      rfl

end Date

end FilterQuery.Calendar
