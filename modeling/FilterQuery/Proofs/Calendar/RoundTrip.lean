import FilterQuery.Calendar.Notation
import FilterQuery.Calendar.Reader
import FilterQuery.Proofs.Calendar.DayNumber
import FilterQuery.Proofs.Text.Digits
import Mathlib.Data.List.Basic

/-!
# Written dates and instants read back

Each scan reads what is written for it and leaves the text that follows.  A number fills its place,
so it ends where its place does; a year with a sign and the decimals of a second end at a character
that is no digit.
-/

namespace FilterQuery.Calendar

open Text

/-! ### Numbers -/

/-- Digits that end where their place does, or before something else, are scanned as a whole. -/
theorem scanDigits_append {digits rest : List Char} {least most : Nat} (h : ∀ c ∈ digits, c.isDigit)
    (enough : least ≤ digits.length) (room : digits.length ≤ most)
    (ends : digits.length = most ∨ ∀ c ∈ rest.head?, c.isDigit = false) :
  scanDigits least most (digits ++ rest) = some (Nat.ofDigitChars 10 digits 0, rest)
  := by
  have found : ((digits ++ rest).take most).takeWhile Char.isDigit = digits := by
    rw [List.take_append, List.take_of_length_le room]
    apply takeWhile_isDigit h
    intro c hc
    rw [List.head?_take] at hc
    rcases ends with full | stop
    · simp [full] at hc
    · split at hc
      · cases hc
      · apply stop c hc
  rw [scanDigits, found, if_neg (Nat.not_lt.2 enough), List.drop_left]

theorem isDigit_padded (width n : Nat) :
  ∀ c ∈ padded width n, c.isDigit
  := List.forall_mem_append.2 ⟨isDigit_zeros _, isDigit_toDigits n⟩

theorem ofDigitChars_padded (width n : Nat) :
  Nat.ofDigitChars 10 (padded width n) 0 = n
  := by
  rw [padded, ofDigitChars_zeros, Nat.ofDigitChars_ten_toDigits]

theorem length_padded {width n : Nat} (positive : 0 < width) (h : n < 10 ^ width) :
  (padded width n).length = width
  := by
  have short := (Nat.length_toDigits_le_iff (by decide) positive).2 h
  rw [padded, List.length_append, List.length_replicate]
  omega

/-- A number that fills its place is scanned up to its end. -/
theorem scanDigits_padded {least width n : Nat} (positive : 0 < width) (h : n < 10 ^ width)
    (enough : least ≤ width) (rest : List Char) :
  scanDigits least width (padded width n ++ rest) = some (n, rest)
  := by
  have full := length_padded positive h
  rw [scanDigits_append (isDigit_padded width n) (by rwa [full]) (Nat.le_of_eq full) (.inl full),
    ofDigitChars_padded]

/-! ### Blanks -/

theorem isBlank_of_isDigit {c : Char} (h : c.isDigit) :
  isBlank c = false
  := by
  have range : 48 ≤ c.toNat ∧ c.toNat ≤ 57 := by
    simpa [Char.isDigit, UInt32.le_iff_toNat_le] using h
  simp [isBlank, blankRanges, inRanges]
  omega

theorem skipBlanks_cons {c : Char} (h : isBlank c = false) (rest : List Char) :
  skipBlanks (c :: rest) = c :: rest
  := by
  simp [skipBlanks, h]

theorem skipBlanks_digits {digits : List Char} (h : ∀ c ∈ digits, c.isDigit)
    (nonempty : digits ≠ []) (rest : List Char) :
  skipBlanks (digits ++ rest) = digits ++ rest
  := by
  obtain ⟨c, others, rfl⟩ := List.exists_cons_of_ne_nil nonempty
  apply skipBlanks_cons (isBlank_of_isDigit (h c List.mem_cons_self))

theorem padded_ne_nil (width n : Nat) :
  padded width n ≠ []
  := by
  simp [padded]

theorem scanPair_padded {n : Nat} (h : n < 100) (rest : List Char) :
  scanPair (padded 2 n ++ rest) = some (n, rest)
  := by
  rw [scanPair, skipBlanks_digits (isDigit_padded 2 n) (padded_ne_nil 2 n)]
  apply scanDigits_padded (by decide) h (by decide)

theorem scanMark_cons {mark : Char} (h : isBlank mark = false) (rest : List Char) :
  scanMark mark (mark :: rest) = some rest
  := by
  simp [scanMark, skipBlanks_cons h]

/-! ### Dates -/

/-- The digits of a year with a sign end before the next separator. -/
theorem scanDigits_signed (n : Nat) (rest : List Char) :
  scanDigits 1 (padded 4 n ++ '-' :: rest).length (padded 4 n ++ '-' :: rest)
    = some (n, '-' :: rest)
  := by
  have enough : 1 ≤ (padded 4 n).length := List.length_pos_of_ne_nil (padded_ne_nil 4 n)
  have room : (padded 4 n).length ≤ (padded 4 n ++ '-' :: rest).length := by
    rw [List.length_append]
    apply Nat.le_add_right _ _
  have ends : ∀ c ∈ ('-' :: rest).head?, c.isDigit = false := by
    rintro c ⟨⟩
    rfl
  rw [scanDigits_append (isDigit_padded 4 n) enough room (.inr ends), ofDigitChars_padded]

theorem scanYear_writeYear (year : Int) (rest : List Char) :
  scanYear (writeYear year ++ '-' :: rest) = some (year, '-' :: rest)
  := by
  rw [writeYear]
  by_cases short : 0 ≤ year ∧ year ≤ 9999
  · have small : year.toNat < 10 ^ 4 := by omega
    have value : (year.toNat : Int) = year := by omega
    have scanned : scanDigits 1 4 (padded 4 year.toNat ++ '-' :: rest)
        = some (year.toNat, '-' :: rest) :=
      scanDigits_padded (by decide) small (by decide) _
    rw [if_pos short, scanYear, skipBlanks_digits (isDigit_padded 4 _) (padded_ne_nil 4 _)]
    have first : ∀ c ∈ (padded 4 year.toNat ++ '-' :: rest).head?, c.isDigit := by
      intro c hc
      rw [List.head?_append_of_ne_nil _ (padded_ne_nil 4 _)] at hc
      apply isDigit_padded 4 _ c (List.mem_of_mem_head? hc)
    split
    case h_1 same | h_2 same =>
      rw [same] at first
      cases first _ rfl
    case h_3 =>
      simp only [scanned, Option.bind_eq_bind, Option.bind_some, value]
  · rw [if_neg short, List.cons_append, scanYear]
    by_cases positive : 0 ≤ year
    · have value : (year.natAbs : Int) = year := by omega
      rw [if_pos positive, skipBlanks_cons (by decide)]
      simp only [scanDigits_signed, Option.bind_eq_bind, Option.bind_some, value]
    · have value : -(year.natAbs : Int) = year := by omega
      rw [if_neg positive, skipBlanks_cons (by decide)]
      simp only [scanDigits_signed, Option.bind_eq_bind, Option.bind_some, value]

theorem daysInMonth_le (year : Int) (month : Nat) :
  daysInMonth year month ≤ 31
  := by
  unfold daysInMonth
  split
  · split <;> decide
  · split <;> decide

/-- A written date is scanned. -/
theorem scanDate_write (d : Date) (rest : List Char) :
  scanDate (d.write ++ rest) = some (d, rest)
  := by
  obtain ⟨-, ⟨-, month⟩, -, day⟩ := d.isDate
  have months : d.month < 100 := by omega
  have days : d.day < 100 := by
    have := daysInMonth_le d.year d.month
    omega
  have mark : isBlank '-' = false := by decide
  rw [Date.write, writeDate, List.append_assoc, List.append_assoc, scanDate, List.cons_append,
    List.cons_append]
  simp only [scanYear_writeYear, scanMark_cons mark, scanPair_padded months, scanPair_padded days,
    Option.bind_eq_bind, Option.bind_some, Date.ofFields?_fields]

/-- A written date is read as the date. -/
theorem Date.read?_write (d : Date) :
  read? d.write = some d
  := by
  have scanned := scanDate_write d []
  rw [List.append_nil] at scanned
  rw [read?, scanned]
  rfl

/-! ### Times -/

/-- The decimals of a second are scanned in units of the last of them. -/
theorem scanFraction_digits {digits rest : List Char} (h : ∀ c ∈ digits, c.isDigit)
    (nonempty : digits ≠ []) (room : digits.length ≤ 9)
    (ends : ∀ c ∈ rest.head?, c.isDigit = false) :
  scanFraction ('.' :: digits ++ rest)
    = some (Nat.ofDigitChars 10 digits 0 * 10 ^ (9 - digits.length), rest)
  := by
  have scanned : scanDigits 1 9 (digits ++ rest) = some (Nat.ofDigitChars 10 digits 0, rest) :=
    scanDigits_append h (List.length_pos_of_ne_nil nonempty) room (.inr ends)
  have left : rest.dropWhile Char.isDigit = rest := by
    cases rest with
    | nil => rfl
    | cons c rest => rw [List.dropWhile_cons_of_neg (by simp [ends c rfl])]
  rw [List.cons_append, scanFraction]
  simp only [scanned, Option.bind_eq_bind, Option.bind_some, left, List.length_append,
    Nat.add_sub_cancel, Nat.ofDigitChars_replicate_zero]
  rw [Nat.mul_comm]

theorem scanFraction_padded {width n : Nat} (positive : 0 < width) (most : width ≤ 9)
    (h : n < 10 ^ width) {rest : List Char} (ends : ∀ c ∈ rest.head?, c.isDigit = false) :
  scanFraction ('.' :: padded width n ++ rest) = some (n * 10 ^ (9 - width), rest)
  := by
  have full := length_padded positive h
  rw [scanFraction_digits (isDigit_padded width n) (padded_ne_nil width n) (by omega) ends,
    ofDigitChars_padded, full]

theorem scanFraction_writeFraction {nano : Nat} (h : nano < 1000000000) {rest : List Char}
    (ends : ∀ c ∈ rest.head?, c.isDigit = false ∧ c ≠ '.') :
  scanFraction (writeFraction nano ++ rest) = some (nano, rest)
  := by
  have noDigit : ∀ c ∈ rest.head?, c.isDigit = false := fun c hc => (ends c hc).1
  rw [writeFraction]
  split
  case isTrue zero =>
    rw [List.nil_append, scanFraction]
    · rw [zero]
    · rintro s rfl
      apply (ends '.' rfl).2 rfl
  case isFalse =>
    split
    case isTrue millis =>
      rw [scanFraction_padded (by decide) (by decide) (by omega) noDigit]
      congr 2
      omega
    case isFalse =>
      split
      case isTrue micros =>
        rw [scanFraction_padded (by decide) (by decide) (by omega) noDigit]
        congr 2
        omega
      case isFalse =>
        rw [scanFraction_padded (by decide) (by decide) (by omega) noDigit, Nat.sub_self,
          Nat.pow_zero, Nat.mul_one]

/-- A written time of day is scanned, with the decimals that are scanned after it; the second after
the 59th is a leap second. -/
theorem scanTime_writeTime {second nano : Nat} (h : IsTime second nano) {decimals rest : List Char}
    (fraction : scanFraction decimals = some (nano % 1000000000, rest)) :
  scanTime (writeTime second (if 1000000000 ≤ nano then 1 else 0) ++ decimals)
    = some (second, nano, rest)
  := by
  obtain ⟨day, bound, leap⟩ := h
  have mark : isBlank ':' = false := by decide
  have hour : second / 3600 < 24 := by omega
  have minute : second / 60 % 60 < 60 := by omega
  generalize extra : (if 1000000000 ≤ nano then 1 else 0) = more
  have last : second % 60 + more ≤ 60 := by
    split at extra <;> omega
  have hourPair : second / 3600 < 100 := by omega
  have minutePair : second / 60 % 60 < 100 := by omega
  have lastPair : second % 60 + more < 100 := by omega
  rw [writeTime, List.append_assoc, List.append_assoc, scanTime, List.cons_append, List.cons_append]
  simp only [scanPair_padded hourPair, scanPair_padded minutePair, scanPair_padded lastPair,
    scanMark_cons mark, fraction, Option.bind_eq_bind, Option.bind_some]
  rw [if_pos ⟨hour, minute, last⟩]
  split at extra
  case isTrue long =>
    have minuteEnd := leap long
    have sixtieth : second % 60 + more = 60 := by omega
    have whole : second / 3600 * 3600 + second / 60 % 60 * 60 + 59 = second := by omega
    have nanos : nano % 1000000000 + 1000000000 = nano := by omega
    rw [if_pos sixtieth, whole, nanos]
  case isFalse short =>
    have within : second % 60 + more ≠ 60 := by omega
    have whole : second / 3600 * 3600 + second / 60 % 60 * 60 + (second % 60 + more) = second := by
      omega
    have nanos : nano % 1000000000 = nano := by omega
    rw [if_neg within, whole, nanos]

/-! ### Instants -/

/-- The instant on a clock that shows universal time. -/
theorem Instant.ofLocal?_fields (t : Instant) :
  ofLocal? t.date t.second t.nano 0 = some t
  := by
  have second := t.isTime.1
  have day : (t.date.dayNumber * 86400 + t.second - 0) / 86400 = t.date.dayNumber := by omega
  have left : ((t.date.dayNumber * 86400 + t.second - 0) % 86400).toNat = t.second := by omega
  simp only [ofLocal?, day, left, Date.ofDayNumber?_dayNumber, Option.bind_eq_bind,
    Option.bind_some, dif_pos t.isTime]

/-- A written date and time are read as an instant, with the decimals that are scanned after it. -/
theorem Instant.read?_of_scanFraction (t : Instant) {decimals : List Char}
    (fraction : scanFraction (decimals ++ ['Z']) = some (t.nano % 1000000000, ['Z'])) :
  read? (t.date.write ++ 'T' :: writeTime t.second (if t.isLeap then 1 else 0) ++ decimals ++ ['Z'])
    = some t
  := by
  have time := scanTime_writeTime t.isTime fraction
  have extra : (if t.isLeap then 1 else 0) = if 1000000000 ≤ t.nano then 1 else 0 := by
    simp [isLeap]
  have zone : scanZone ['Z'] = some (0, []) := rfl
  rw [read?, scanInstant, List.append_assoc, List.append_assoc, List.cons_append, extra]
  rw [scanDate_write]
  simp only [Option.bind_eq_bind, Option.bind_some, true_or, if_true, time, zone, ofLocal?_fields]
  rfl

/-- A written instant is read as the instant. -/
theorem Instant.read?_write (t : Instant) :
  read? (t.write ['Z']) = some t
  := by
  apply read?_of_scanFraction
  apply scanFraction_writeFraction (Nat.mod_lt _ (by decide))
  rintro c ⟨⟩
  decide

end FilterQuery.Calendar
