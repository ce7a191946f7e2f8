import DocumentQuery.Proofs.Calendar.Timestamp
import DocumentQuery.Proofs.Operand.Recognition

/-!
How far a timestamp can lie outside the years 0 to 9999.

The date of a timestamp has four digits for its year, but the instant is counted in universal time,
and an offset shifts it by less than a day. So the instant lies in these years, on the day before
them or on the day after them; there the calendar goes on, and each of the days has a day after it.
-/

namespace DocumentQuery

/-- An offset shifts an instant by at most one day. -/
theorem Timestamp.day_instant (timestamp : Timestamp) :
    timestamp.date.number - 1 ≤ timestamp.instant.day ∧
      timestamp.instant.day ≤ timestamp.date.number + 1 := by
  have midnight := Date.seconds_midnight timestamp.fourDigits.1
  have offset := timestamp.offset.minutes_lt
  have wholeDays : timestamp.instant.day = timestamp.instant.seconds / 86400 := rfl
  rw [seconds_instant] at wholeDays
  omega

/-! ## Bounds of an instant -/

namespace Date

theorem number_bounds {date : Date} (fourDigits : 0 ≤ date.year ∧ date.year ≤ 9999) :
    yearStart 0 ≤ date.number ∧ date.number < yearStart 10000 := by
  obtain ⟨first, last⟩ := fourDigits
  rw [← date.yearOf_number] at first last
  exact ⟨le_yearOf_iff.mp first, yearOf_lt_iff.mp (Int.lt_add_one_of_le last)⟩

end Date

theorem Timestamp.day_read? {text : List Char} {instant : Instant}
    (read : read? text = some instant) :
    yearStart 0 - 1 ≤ instant.day ∧ instant.day ≤ yearStart 10000 := by
  obtain ⟨timestamp, rfl, rfl⟩ := read?_eq_some_iff.mp read
  have days := Date.number_bounds timestamp.fourDigits
  have shift := timestamp.day_instant
  omega

namespace Instant

theorem hasFourDigitYear_iff {instant : Instant} :
    instant.HasFourDigitYear ↔ yearStart 0 ≤ instant.day ∧ instant.day < yearStart 10000 := by
  have first : 0 ≤ instant.year ↔ yearStart 0 ≤ instant.day := le_yearOf_iff
  have last : instant.year < 10000 ↔ instant.day < yearStart 10000 := yearOf_lt_iff
  unfold HasFourDigitYear
  omega

/-- A text spells no instant that is more than a day away from the years 0 to 9999. -/
theorem day_ofText? {text : String} {instant : Instant} (spelled : ofText? text = some instant) :
    yearStart 0 - 1 ≤ instant.day ∧ instant.day ≤ yearStart 10000 := by
  unfold ofText? at spelled
  rcases Option.or_eq_some_iff.mp spelled with timestamp | ⟨_, day⟩
  · exact Timestamp.day_read? timestamp
  · obtain ⟨date, read, rfl⟩ := Option.map_eq_some_iff.mp day
    have bounds := Date.number_bounds (Date.read?_eq_some_iff.mp read).1
    rw [day_ofDay]
    omega

/-- An instant that a text spells has a day after its own. -/
theorem dayBounds?_of_ofText? {text : String} {instant : Instant}
    (spelled : ofText? text = some instant) :
    instant.dayBounds? = some (instant.startOfDay, ofDay (instant.day + 1)) := by
  have bounds := day_ofText? spelled
  have last : yearStart 10000 < lastDay := by decide
  unfold dayBounds?
  rw [if_pos (by omega)]
  rfl

end Instant

end DocumentQuery
