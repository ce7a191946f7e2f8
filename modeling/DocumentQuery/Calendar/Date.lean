/-!
Days of the Gregorian calendar, continued backwards before its introduction.

Every whole number names a day: zero is 1 January 1970. `Date.number` counts from the calendar date
to that number and `Date.ofNumber` goes back. Years are whole numbers too; the year before year 1
is year 0.
-/

namespace DocumentQuery

/-! ## Years and months -/

/-- Whether a year has 366 days. -/
def isLeapYear (year : Int) : Bool :=
  year % 4 = 0 && (year % 100 ≠ 0 || year % 400 = 0)

/-- The number of days of a year. -/
def yearLength (leap : Bool) : Nat :=
  if leap then 366 else 365

/-- The number of days of a month, the months being 1 to 12. -/
def monthLength (leap : Bool) : Nat → Nat
  | 1 | 3 | 5 | 7 | 8 | 10 | 12 => 31
  | 4 | 6 | 9 | 11 => 30
  | 2 => if leap then 29 else 28
  | _ => 0

/-- The number of days of a year before the first day of a month. -/
def daysBefore (leap : Bool) : Nat → Nat
  | 0 => 0
  | month + 1 => daysBefore leap month + monthLength leap month

/-- The number of the first day of a year. -/
def yearStart (year : Int) : Int :=
  365 * (year - 1) + (year - 1) / 4 - (year - 1) / 100 + (year - 1) / 400 - 719162

/-- The year that contains a day. The mean length of a year puts the guess at most one year off. -/
def yearOf (number : Int) : Int :=
  let guess := (number + 719162) * 400 / 146097 + 1
  if number < yearStart guess then guess - 1
  else if yearStart (guess + 1) ≤ number then guess + 1
  else guess

/-- The month that contains a day of a year, the first day being day zero. -/
def monthOf (leap : Bool) (dayOfYear : Nat) : Nat :=
  (List.range 12).countP fun month => daysBefore leap (month + 1) ≤ dayOfYear

theorem yearStart_succ (year : Int) :
    yearStart (year + 1) = yearStart year + yearLength (isLeapYear year) := by
  by_cases four : year % 4 = 0 <;> by_cases century : year % 100 = 0 <;>
    by_cases era : year % 400 = 0 <;>
    simp [yearStart, yearLength, isLeapYear, four, century, era] <;> omega

theorem yearStart_yearOf_le (number : Int) : yearStart (yearOf number) ≤ number := by
  rw [yearOf]
  split
  · simp only [yearStart] at *
    omega
  · split
    · assumption
    · simp only [yearStart] at *
      omega

theorem lt_yearStart_yearOf_succ (number : Int) : number < yearStart (yearOf number + 1) := by
  rw [yearOf]
  split
  · next early => simpa using early
  · split
    · simp only [yearStart] at *
      omega
    · next late => exact Int.not_le.mp late

/-- A day lies inside its year. -/
theorem dayOfYear_lt (number : Int) :
    (number - yearStart (yearOf number)).toNat < yearLength (isLeapYear (yearOf number)) := by
  have start := yearStart_yearOf_le number
  have next := lt_yearStart_yearOf_succ number
  rw [yearStart_succ] at next
  omega

theorem monthOf_spec (leap : Bool) : ∀ dayOfYear < yearLength leap,
    daysBefore leap (monthOf leap dayOfYear) ≤ dayOfYear ∧
      dayOfYear < daysBefore leap (monthOf leap dayOfYear) +
        monthLength leap (monthOf leap dayOfYear) := by
  cases leap <;> decide +kernel

/-! ## Dates -/

/-- A day by year, month and day of the month. -/
structure Date where
  year : Int
  month : Nat
  day : Nat
  /-- The month has this day; no month outside 1 to 12 has any. -/
  valid : 1 ≤ day ∧ day ≤ monthLength (isLeapYear year) month
  deriving DecidableEq

namespace Date

/-- The date with the given parts, if there is one. -/
def ofParts? (year : Int) (month day : Nat) : Option Date :=
  if valid : 1 ≤ day ∧ day ≤ monthLength (isLeapYear year) month then
    some ⟨year, month, day, valid⟩
  else none

/-- The number of the day. -/
def number (date : Date) : Int :=
  yearStart date.year + daysBefore (isLeapYear date.year) date.month + (date.day - 1 : Nat)

/-- The date of a day of a year, the first day being day zero. -/
def ofDayOfYear (year : Int) (dayOfYear : Nat)
    (inside : dayOfYear < yearLength (isLeapYear year)) : Date where
  year := year
  month := monthOf (isLeapYear year) dayOfYear
  day := dayOfYear - daysBefore (isLeapYear year) (monthOf (isLeapYear year) dayOfYear) + 1
  valid := by
    have spec := monthOf_spec (isLeapYear year) dayOfYear inside
    omega

/-- The date of the day with a number. -/
def ofNumber (number : Int) : Date :=
  ofDayOfYear (yearOf number) (number - yearStart (yearOf number)).toNat (dayOfYear_lt number)

/-- The date of a day's number has that number. -/
theorem number_ofNumber (n : Int) : (ofNumber n).number = n := by
  have start := yearStart_yearOf_le n
  have spec := monthOf_spec (isLeapYear (yearOf n)) _ (dayOfYear_lt n)
  simp only [number, ofNumber, ofDayOfYear]
  omega

end Date

end DocumentQuery
