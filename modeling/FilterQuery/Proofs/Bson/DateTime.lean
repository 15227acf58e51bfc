import FilterQuery.Bson.ExtendedJson
import FilterQuery.Proofs.Calendar.Order
import FilterQuery.Proofs.Calendar.RoundTrip
import Mathlib

/-!
# Points in time read back

A point in time is shown as date and time where the years have four digits, with as many decimals
of a second as are needed, and else as a number of milliseconds.  Either way the milliseconds are
read back.
-/

namespace FilterQuery

open Calendar Text

namespace Calendar

/-! ### Milliseconds of a day -/

/-- The instant that lies some milliseconds after the start of a date. -/
def Instant.ofMillis (d : Date) (left : Nat) (inDay : left < 86400000) : Instant where
  date := d
  second := left / 1000
  nano := left % 1000 * 1000000
  isTime := by
    unfold IsTime
    omega

section Day

variable (d : Date) {left : Nat} (inDay : left < 86400000)

theorem Instant.isLeap_ofMillis :
  (ofMillis d left inDay).isLeap = false
  := by
  apply decide_eq_false
  change ¬ 1000000000 ≤ left % 1000 * 1000000
  omega

theorem Instant.millis_ofMillis :
  (ofMillis d left inDay).millis = d.dayNumber * 86400000 + left
  := by
  simp only [millis, ofMillis]
  omega

end Day

/-! ### Decimals of a second -/

/-- What is left out at the end of digits are zeros. -/
theorem exists_zeros (digits : List Char) :
  ∃ left, digits.rdropWhile (· = '0') ++ List.replicate left '0' = digits
  := by
  have zeros : digits.rtakeWhile (· = '0')
      = List.replicate (digits.rtakeWhile (· = '0')).length '0' := by
    apply List.eq_replicate_of_mem
    intro c listed
    have zero := List.mem_rtakeWhile_imp listed
    exact of_decide_eq_true zero
  use (digits.rtakeWhile (· = '0')).length
  rw [← zeros]
  apply List.rdropWhile_append_rtakeWhile

/-- Decimals are scanned as with zeros at their end. -/
theorem scanFraction_zeros {digits rest : List Char} {left : Nat} (h : ∀ c ∈ digits, c.isDigit)
    (nonempty : digits ≠ []) (room : (digits ++ List.replicate left '0').length ≤ 9)
    (ends : ∀ c ∈ rest.head?, c.isDigit = false) :
  scanFraction ('.' :: digits ++ rest)
    = some (Nat.ofDigitChars 10 (digits ++ List.replicate left '0') 0
        * 10 ^ (9 - (digits ++ List.replicate left '0').length), rest)
  := by
  rw [List.length_append, List.length_replicate] at room ⊢
  have places : 9 - digits.length = left + (9 - (digits.length + left)) := by omega
  rw [scanFraction_digits h nonempty (by omega) ends, places, Nat.pow_add, ← Nat.mul_assoc,
    Nat.ofDigitChars_append, Nat.ofDigitChars_replicate_zero, Nat.mul_comm (10 ^ left)]

end Calendar

namespace Bson

/-- The decimals of milliseconds, without zeros at the end, are scanned as the milliseconds. -/
theorem scanFraction_milliDecimals {millis : Nat} (h : millis < 1000) :
  scanFraction (milliDecimals millis ++ ['Z']) = some (millis * 1000000, ['Z'])
  := by
  have ends : ∀ c ∈ ['Z'].head?, c.isDigit = false := by
    rintro c ⟨⟩
    rfl
  rw [milliDecimals]
  split
  · next zero =>
    rw [zero]
    rfl
  · next positive =>
    obtain ⟨left, whole⟩ := exists_zeros (padded 3 millis)
    change scanFraction ('.' :: (padded 3 millis).rdropWhile (· = '0') ++ ['Z']) = _
    generalize (padded 3 millis).rdropWhile (· = '0') = digits at whole ⊢
    have full : (padded 3 millis).length = 3 := length_padded (by decide) h
    have isDigit : ∀ c ∈ digits, c.isDigit := by
      intro c listed
      apply isDigit_padded 3 millis
      rw [← whole]
      apply List.mem_append_left _ listed
    have nonempty : digits ≠ [] := by
      rintro rfl
      apply positive
      rw [← ofDigitChars_padded 3 millis, ← whole, List.nil_append,
        Nat.ofDigitChars_replicate_zero, Nat.mul_zero]
    have room : (digits ++ List.replicate left '0').length ≤ 9 := by
      rw [whole, full]
      decide
    rw [scanFraction_zeros isDigit nonempty room ends, whole, full, ofDigitChars_padded]
    rfl

/-! ### Points in time -/

/-- The milliseconds that are shown in JSON, as date and time or as a number. -/
def millis? : Json → Option Int
  | .string s => (Instant.read? s.toList).map Instant.millis
  | .object [("$numberLong", .string s)] => s.toInt?
  | _ => none

/-- The day of a point in time that is shown as date and time is a date. -/
theorem exists_date {millis : Int} (first : 0 ≤ millis)
    (last : yearOfDayNumber (millis / 86400000) ≤ 9999) :
  ∃ d : Date, d.dayNumber = millis / 86400000
  := by
  have bound : millis / 86400000 ≤ Date.last.dayNumber := by
    have number : 10000000 ≤ Date.last.dayNumber := by decide
    simp only [yearOfDayNumber, daysBeforeYear_eq] at last
    omega
  have positive : ((millis / 86400000).toNat : Int) = millis / 86400000 := by omega
  rw [← positive] at bound ⊢
  apply Date.exists_dayNumber_eq bound

/-- A point in time is read back from its date and time. -/
theorem read?_dateTimeText {millis : Int} (first : 0 ≤ millis)
    (last : yearOfDayNumber (millis / 86400000) ≤ 9999) :
  (Instant.read? (dateTimeText millis)).map Instant.millis = some millis
  := by
  obtain ⟨d, day⟩ := exists_date first last
  generalize rest : (millis % 86400000).toNat = left
  have inDay : left < 86400000 := by omega
  have plain := Instant.isLeap_ofMillis d inDay
  have text : dateTimeText millis = d.write ++ 'T' :: writeTime (left / 1000) 0
      ++ milliDecimals (left % 1000) ++ ['Z'] := by
    rw [dateTimeText, ← day, dateOfDayNumber_dayNumber, rest]
    rfl
  have fraction : scanFraction (milliDecimals (left % 1000) ++ ['Z'])
      = some ((Instant.ofMillis d left inDay).nano % 1000000000, ['Z']) := by
    have nano : (Instant.ofMillis d left inDay).nano % 1000000000 = left % 1000 * 1000000 := by
      simp only [Instant.ofMillis]
      omega
    rw [nano]
    apply scanFraction_milliDecimals
    omega
  have read : Instant.read? (dateTimeText millis) = some (.ofMillis d left inDay) := by
    have written := Instant.read?_of_scanFraction _ fraction
    rw [plain] at written
    rw [text]
    exact written
  rw [read, Option.map_some, Instant.millis_ofMillis, Option.some.injEq]
  omega

/-- A point in time is read back from what is shown of it. -/
theorem millis?_shown (millis : Int) :
  ∃ shown, extendedDateTime millis = .object [("$date", shown)] ∧ millis? shown = some millis
  := by
  refine ⟨_, rfl, ?_⟩
  split
  · next h =>
    rw [Json.ofChars, millis?, String.toList_ofList]
    apply read?_dateTimeText h.1 h.2
  · exact Int.toInt?_repr millis

end Bson

end FilterQuery
