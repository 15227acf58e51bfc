import FilterQuery.Calendar.Instant

/-!
# Written dates and instants

A date is written `2024-02-29`, with a sign before a year outside 0 to 9999, and an instant
`2024-02-29T12:34:56.789`, followed by the sign of its zone.  The seconds have three, six or nine
decimals, whichever first shows the instant in full, or none.
-/

namespace FilterQuery.Calendar

/-- A number with zeros before it, to a given number of digits. -/
def padded (width n : Nat) : List Char :=
  let digits := Nat.toDigits 10 n
  List.replicate (width - digits.length) '0' ++ digits

/-- A year of four digits or more, with a sign outside 0 to 9999. -/
def writeYear (year : Int) : List Char :=
  if 0 ≤ year ∧ year ≤ 9999 then padded 4 year.toNat
  else (if 0 ≤ year then '+' else '-') :: padded 4 year.natAbs

/-- A year, month and day. -/
def writeDate (year : Int) (month day : Nat) : List Char :=
  writeYear year ++ '-' :: padded 2 month ++ '-' :: padded 2 day

/-- The hour, minute and second of a second of the day, with `extra` seconds added to the last. -/
def writeTime (second extra : Nat) : List Char :=
  padded 2 (second / 3600) ++ ':' :: padded 2 (second / 60 % 60) ++
    ':' :: padded 2 (second % 60 + extra)

/-- The decimals of a second. -/
def writeFraction (nano : Nat) : List Char :=
  if nano = 0 then []
  else if nano % 1000000 = 0 then '.' :: padded 3 (nano / 1000000)
  else if nano % 1000 = 0 then '.' :: padded 6 (nano / 1000)
  else '.' :: padded 9 nano

/-- A date. -/
def Date.write (d : Date) : List Char := writeDate d.year d.month d.day

/-- An instant, followed by the given sign of its zone. -/
def Instant.write (t : Instant) (zone : List Char) : List Char :=
  t.date.write ++ 'T' :: writeTime t.second (if t.isLeap then 1 else 0) ++
    writeFraction (t.nano % 1000000000) ++ zone

end FilterQuery.Calendar
