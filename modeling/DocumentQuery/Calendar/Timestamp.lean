import DocumentQuery.Calendar.Instant
import DocumentQuery.Text.Decimal

/-!
Dates and instants as text.

A calendar date is written `YYYY-MM-DD`. A timestamp is a date, `T`, a time of day with seconds and
possibly a fraction, and an offset from universal time: `Z` or a sign, hours and minutes. Reading
takes the whole text or nothing; it keeps nine digits of a fraction, and takes second 60 for a leap
second. Writing uses universal time and three digits of a fraction.
-/

namespace DocumentQuery

/-! ## Reading -/

namespace Timestamp

/-- The text after an expected first character. -/
def expect? (c : Char) : List Char → Option (List Char)
  | [] => none
  | d :: text => if d = c then some text else none

/-- A number of exactly two digits that is at most `greatest`, and the text after it. -/
def takeTwo? (greatest : Nat) (text : List Char) : Option (Nat × List Char) := do
  let (number, rest) ← Text.takeNumber? 2 text
  if number ≤ greatest then some (number, rest) else none

/-- A date of the years 0 to 9999, and the text after it. -/
def takeDate? (text : List Char) : Option (Date × List Char) := do
  let (year, text) ← Text.takeNumber? 4 text
  let text ← expect? '-' text
  let (month, text) ← Text.takeNumber? 2 text
  let text ← expect? '-' text
  let (day, text) ← Text.takeNumber? 2 text
  let date ← Date.ofParts? year month day
  some (date, text)

/-- A time of day. Second 60 is the leap second after second 59. -/
structure TimeOfDay where
  hour : Nat
  minute : Nat
  second : Nat
  nanos : Nat

/-- The nanoseconds that the digits of a fraction stand for; those after the ninth do not count. -/
def fractionNanos (digits : List Char) : Nat :=
  Text.digitsValue (digits.take 9) * 10 ^ (9 - digits.length)

/-- A fraction of a second with its point, if there is one, in nanoseconds, and the text after it.
A point without a digit is no fraction. -/
def takeFraction? : List Char → Option (Nat × List Char)
  | '.' :: text =>
    let digits := text.takeWhile Char.isDigit
    if digits.isEmpty then none
    else some (fractionNanos digits, text.dropWhile Char.isDigit)
  | text => some (0, text)

/-- A time of day, and the text after it. -/
def takeTime? (text : List Char) : Option (TimeOfDay × List Char) := do
  let (hour, text) ← takeTwo? 23 text
  let text ← expect? ':' text
  let (minute, text) ← takeTwo? 59 text
  let text ← expect? ':' text
  let (second, text) ← takeTwo? 60 text
  let (nanos, text) ← takeFraction? text
  some (⟨hour, minute, second, nanos⟩, text)

/-- An offset in minutes; it takes the rest of the text. -/
def readOffset? : List Char → Option Int
  | ['Z'] => some 0
  | '+' :: text => hoursAndMinutes? text
  | '-' :: text => (hoursAndMinutes? text).map Int.neg
  | _ => none
where
  /-- Hours and minutes, together in minutes. -/
  hoursAndMinutes? (text : List Char) : Option Int := do
    let (hour, text) ← takeTwo? 23 text
    let text ← expect? ':' text
    let (minute, text) ← takeTwo? 59 text
    if text.isEmpty then some (60 * hour + minute) else none

/-- The instant at a local date and time that is `offset` minutes ahead of universal time. -/
def instant? (date : Date) (time : TimeOfDay) (offset : Int) : Option Instant :=
  let minutes := date.number * 1440 + time.hour * 60 + time.minute - offset
  if time.second = 60 then Instant.ofParts? (minutes * 60 + 59) (10 ^ 9 + time.nanos)
  else Instant.ofParts? (minutes * 60 + time.second) time.nanos

/-- The instant of a timestamp. -/
def read? (text : List Char) : Option Instant := do
  let (date, text) ← takeDate? text
  let text ← expect? 'T' text
  let (time, text) ← takeTime? text
  let offset ← readOffset? text
  instant? date time offset

end Timestamp

/-- The date of a text that is a calendar date and nothing else. -/
def Date.read? (text : List Char) : Option Date := do
  let (date, rest) ← Timestamp.takeDate? text
  if rest.isEmpty then some date else none

/-! ## Writing -/

namespace Timestamp

/-- A year: four digits from 0 to 9999, and otherwise a sign and at least four digits. -/
def yearText (year : Int) : List Char :=
  if 0 ≤ year ∧ year ≤ 9999 then Text.padded 4 year.toNat
  else (if year < 0 then '-' else '+') :: Text.padded 4 year.natAbs

/-- A date. -/
def dateText (date : Date) : List Char :=
  yearText date.year ++ '-' :: Text.padded 2 date.month ++ '-' :: Text.padded 2 date.day

/-- The time of day of an instant, to the millisecond. A leap second is second 60. -/
def timeText (instant : Instant) : List Char :=
  let second := instant.secondOfDay
  Text.padded 2 (second / 3600) ++ ':' :: Text.padded 2 (second / 60 % 60) ++
    ':' :: Text.padded 2 (second % 60 + instant.nanos / 10 ^ 9) ++
    '.' :: Text.padded 3 (instant.nanos % 10 ^ 9 / 10 ^ 6)

/-- An instant in universal time, to the millisecond. -/
def write (instant : Instant) : List Char :=
  dateText (Date.ofNumber instant.day) ++ 'T' :: timeText instant ++ ['Z']

end Timestamp

/-- The written form of an instant. -/
def Instant.text (instant : Instant) : String :=
  String.ofList (Timestamp.write instant)

end DocumentQuery
