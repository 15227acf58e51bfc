import FilterQuery.Calendar.Instant
import FilterQuery.Text.Blank

/-!
# Reading dates and instants

`Date.read?` reads a year, a month and a day with `-` between them, and `Instant.read?` a date, a
time of day and a zone.  Blanks may stand before a number and before a separator.  A year has one
to four digits, or any number of them after a sign; the other numbers have one or two.  Each
`scan` function reads from the start of a text and returns what it leaves.
-/

namespace FilterQuery.Calendar

open Text

/-- A number of `least` to `most` digits. -/
def scanDigits (least most : Nat) (s : List Char) : Option (Nat × List Char) :=
  let digits := (s.take most).takeWhile Char.isDigit
  if digits.length < least then none
  else some (Nat.ofDigitChars 10 digits 0, s.drop digits.length)

/-- A number of one or two digits, after blanks. -/
def scanPair (s : List Char) : Option (Nat × List Char) := scanDigits 1 2 (skipBlanks s)

/-- A given character, after blanks. -/
def scanMark (mark : Char) (s : List Char) : Option (List Char) :=
  match skipBlanks s with
  | c :: rest => if c = mark then some rest else none
  | [] => none

/-- A year, after blanks. -/
def scanYear (s : List Char) : Option (Int × List Char) :=
  match skipBlanks s with
  | '-' :: rest => do
    let (n, rest) ← scanDigits 1 rest.length rest
    some (-(n : Int), rest)
  | '+' :: rest => do
    let (n, rest) ← scanDigits 1 rest.length rest
    some ((n : Int), rest)
  | s => do
    let (n, rest) ← scanDigits 1 4 s
    some ((n : Int), rest)

/-- A date. -/
def scanDate (s : List Char) : Option (Date × List Char) := do
  let (year, s) ← scanYear s
  let s ← scanMark '-' s
  let (month, s) ← scanPair s
  let s ← scanMark '-' s
  let (day, s) ← scanPair s
  let date ← Date.ofFields? year month day
  some (date, s)

/-- The decimals of a second as nanoseconds, if a point follows.  Only nine of them count. -/
def scanFraction (s : List Char) : Option (Nat × List Char) :=
  match s with
  | '.' :: rest => do
    let (n, left) ← scanDigits 1 9 rest
    let places := rest.length - left.length
    some (Nat.ofDigitChars 10 (List.replicate (9 - places) '0') n, left.dropWhile Char.isDigit)
  | s => some (0, s)

/-- An hour, a minute and a second, as the second of the day and the nanosecond. -/
def scanTime (s : List Char) : Option (Nat × Nat × List Char) := do
  let (hour, s) ← scanPair s
  let s ← scanMark ':' s
  let (minute, s) ← scanPair s
  let s ← scanMark ':' s
  let (second, s) ← scanPair s
  let (nano, s) ← scanFraction s
  if hour < 24 ∧ minute < 60 ∧ second ≤ 60 then
    let start := hour * 3600 + minute * 60
    if second = 60 then some (start + 59, nano + 1000000000, s)
    else some (start + second, nano, s)
  else none

/-- The minutes of a zone, in two digits. -/
def scanZoneMinutes (s : List Char) : Option (Nat × List Char) := do
  let (n, s) ← scanDigits 2 2 s
  if n < 60 then some (n, s) else none

/-- A sign, hours and minutes of two digits each, with colons and blanks between them or nothing:
the seconds ahead of universal time. -/
def scanOffset (s : List Char) : Option (Int × List Char) :=
  match s with
  | [] => none
  | sign :: rest => do
    let negative ←
      if sign = '+' then some false
      else if sign = '-' ∨ sign = '\u2212' then some true
      else none
    let (hours, rest) ← scanDigits 2 2 rest
    let (minutes, rest) ← scanZoneMinutes (rest.dropWhile fun c => c = ':' || isBlank c)
    let seconds : Int := hours * 3600 + minutes * 60
    if seconds < 86400 then some (if negative then -seconds else seconds, rest) else none

/-- The zone of an instant: `Z`, `UTC` or an offset, after blanks. -/
def scanZone (s : List Char) : Option (Int × List Char) :=
  match skipBlanks s with
  | c :: rest =>
    if c.toUpper = 'Z' then some (0, rest)
    else if ((c :: rest).take 3).map Char.toUpper = ['U', 'T', 'C'] then some (0, rest.drop 2)
    else scanOffset (c :: rest)
  | [] => none

/-- An instant. -/
def scanInstant (s : List Char) : Option (Instant × List Char) := do
  let (date, s) ← scanDate s
  let s ←
    match s with
    | c :: rest => if c = 'T' ∨ c = 't' ∨ c = ' ' then some rest else none
    | [] => none
  let (second, nano, s) ← scanTime s
  let (offset, s) ← scanZone s
  let instant ← Instant.ofLocal? date second nano offset
  some (instant, s)

/-- What a scan reads, if only blanks are left. -/
def whole {α : Type} (scanned : Option (α × List Char)) : Option α := do
  let (x, rest) ← scanned
  if skipBlanks rest = [] then some x else none

/-- The date a text stands for. -/
def Date.read? (s : List Char) : Option Date := whole (scanDate s)

/-- The instant a text stands for. -/
def Instant.read? (s : List Char) : Option Instant := whole (scanInstant s)

end FilterQuery.Calendar
