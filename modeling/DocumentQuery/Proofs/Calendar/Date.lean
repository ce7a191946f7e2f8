import DocumentQuery.Calendar.Date

/-!
Years and the days in them.

A year is an unbroken run of days, and the runs follow each other in the order of the years, so
`yearOf_eq_iff` finds the year of a day by the two ends of its run. The parts of a date determine its
day and the other way round. `Date.number_eq_dayCount_sub` says that the number of a day is the one
that the lengths of the years and months add up to.
-/

namespace DocumentQuery

/-! ## Runs of days -/

theorem yearStart_le_yearStart {early late : Int} (le : early ≤ late) :
    yearStart early ≤ yearStart late := by
  unfold yearStart
  omega

/-- The year of a day is the one whose first day is not after it and the next year's is. -/
theorem yearOf_eq_iff {number year : Int} :
    yearOf number = year ↔ yearStart year ≤ number ∧ number < yearStart (year + 1) := by
  constructor
  · rintro rfl
    exact ⟨yearStart_yearOf_le number, lt_yearStart_yearOf_succ number⟩
  · rintro ⟨start, stop⟩
    have lower := yearStart_yearOf_le number
    have upper := lt_yearStart_yearOf_succ number
    rcases Int.lt_trichotomy (yearOf number) year with before | same | after
    · have later := yearStart_le_yearStart (show yearOf number + 1 ≤ year by omega)
      omega
    · exact same
    · have later := yearStart_le_yearStart (show year + 1 ≤ yearOf number by omega)
      omega

theorem le_yearOf_iff {number year : Int} : year ≤ yearOf number ↔ yearStart year ≤ number := by
  constructor
  · intro le
    exact Int.le_trans (yearStart_le_yearStart le) (yearStart_yearOf_le number)
  · intro start
    have next := lt_yearStart_yearOf_succ number
    by_cases before : yearOf number < year
    · have later := yearStart_le_yearStart (show yearOf number + 1 ≤ year by omega)
      omega
    · exact Int.not_lt.mp before

theorem yearOf_lt_iff {number year : Int} : yearOf number < year ↔ number < yearStart year := by
  have le : year ≤ yearOf number ↔ yearStart year ≤ number := le_yearOf_iff
  omega

namespace Date

/-! ## Parts of a date -/

theorem monthLength_eq_zero {leap : Bool} {month : Nat} (outside : month = 0 ∨ 12 < month) :
    monthLength leap month = 0 := by
  unfold monthLength
  split <;> omega

theorem month_bounds (date : Date) : 1 ≤ date.month ∧ date.month ≤ 12 := by
  have valid := date.valid
  by_cases outside : date.month = 0 ∨ 12 < date.month
  · rw [monthLength_eq_zero outside] at valid
    omega
  · omega

theorem monthLength_le (leap : Bool) (month : Nat) : monthLength leap month ≤ 31 := by
  unfold monthLength
  split <;> first | omega | (split <;> omega)

theorem day_bounds (date : Date) : 1 ≤ date.day ∧ date.day ≤ 31 := by
  have longest := monthLength_le (isLeapYear date.year) date.month
  have valid := date.valid
  omega

theorem ofParts?_self (date : Date) : ofParts? date.year date.month date.day = some date := by
  unfold ofParts?
  rw [dif_pos date.valid]

/-- A month ends inside its year. -/
theorem daysBefore_add_monthLength_le (leap : Bool) :
    ∀ month ≤ 12, daysBefore leap month + monthLength leap month ≤ yearLength leap := by
  cases leap <;> decide

/-- A date lies in its year. -/
theorem yearOf_number (date : Date) : yearOf date.number = date.year := by
  have months := date.month_bounds
  have valid := date.valid
  have fits := daysBefore_add_monthLength_le (isLeapYear date.year) date.month months.2
  have next := yearStart_succ date.year
  rw [yearOf_eq_iff, number]
  omega

/-! ## Days counted out -/

/-- The days of the years from year 0 on, as many of them as there are years. -/
def daysOfYears : Nat → Nat
  | 0 => 0
  | years + 1 => daysOfYears years + yearLength (isLeapYear years)

/-- The days before a date since year 0 began: those of the years before it, of the months before it
in its year, and of its month. Dates before year 0 have no such count. -/
def dayCount (date : Date) : Nat :=
  daysOfYears date.year.toNat + daysBefore (isLeapYear date.year) date.month + (date.day - 1)

/-- The first day of 1970. -/
def epoch : Date :=
  ⟨1970, 1, 1, by decide⟩

theorem yearStart_eq_daysOfYears (years : Nat) : yearStart years = yearStart 0 + daysOfYears years := by
  induction years with
  | zero => rfl
  | succ years ih =>
    rw [Int.natCast_succ, yearStart_succ, ih, daysOfYears]
    omega

theorem number_eq_yearStart_add (date : Date) (notBefore : 0 ≤ date.year) :
    date.number = yearStart 0 + date.dayCount := by
  have years := yearStart_eq_daysOfYears date.year.toNat
  rw [Int.toNat_of_nonneg notBefore] at years
  rw [number, dayCount, years]
  omega

/-- The number of a day is what counting out the days from 1970 gives. -/
theorem number_eq_dayCount_sub {date : Date} (notBefore : 0 ≤ date.year) :
    date.number = date.dayCount - epoch.dayCount := by
  have start := number_eq_yearStart_add epoch (by decide)
  have zero : epoch.number = 0 := by decide
  rw [number_eq_yearStart_add date notBefore]
  omega

end Date

end DocumentQuery
