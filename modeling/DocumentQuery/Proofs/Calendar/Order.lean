import DocumentQuery.Proofs.Calendar.Timestamp
import Mathlib.Order.Defs.LinearOrder

/-!
The order of dates and of instants.

Dates are ordered by year, month and day, and this is the order of their numbers
(`Date.number_lt_number_iff`), so a date has one number and a number one date. Counting on by one
goes to the next date of the calendar (`Date.ofNumber_add_one`). Instants are in a linear order, and
a day is what lies from its first instant up to the first instant of the next
(`Instant.ofDay_le_iff`, `Instant.lt_ofDay_iff`).
-/

namespace DocumentQuery

/-! ## Dates -/

namespace Date

instance : LT Date :=
  ⟨fun a b => a.year < b.year ∨
    (a.year = b.year ∧ (a.month < b.month ∨ (a.month = b.month ∧ a.day < b.day)))⟩

theorem lt_iff {a b : Date} :
    a < b ↔ a.year < b.year ∨
      (a.year = b.year ∧ (a.month < b.month ∨ (a.month = b.month ∧ a.day < b.day))) := Iff.rfl

theorem eq_of_parts {a b : Date} (year : a.year = b.year) (month : a.month = b.month)
    (day : a.day = b.day) : a = b := by
  cases a
  cases b
  cases year
  cases month
  cases day
  rfl

theorem lt_or_eq_or_lt (a b : Date) : a < b ∨ a = b ∨ b < a := by
  have same := eq_of_parts (a := a) (b := b)
  rw [lt_iff, lt_iff]
  grind

theorem daysBefore_le_daysBefore (leap : Bool) {early late : Nat} (le : early ≤ late) :
    daysBefore leap early ≤ daysBefore leap late := by
  induction le with
  | refl => exact Nat.le_refl _
  | step _ ih => exact Nat.le_trans ih (Nat.le_add_right _ _)

theorem number_lt_number {a b : Date} (lt : a < b) : a.number < b.number := by
  rcases lt with years | ⟨years, months | ⟨months, days⟩⟩
  · rw [← a.yearOf_number] at years
    have first : yearStart b.year ≤ b.number := le_yearOf_iff.mp (Int.le_of_eq b.yearOf_number.symm)
    have last : a.number < yearStart b.year := yearOf_lt_iff.mp years
    omega
  · have ended := daysBefore_le_daysBefore (isLeapYear b.year) months
    have valid := a.valid
    rw [Nat.succ_eq_add_one, daysBefore] at ended
    rw [years] at valid
    rw [number, number, years]
    omega
  · have first := a.valid.1
    rw [number, number, years, months]
    omega

/-- The order of dates is the order of their numbers. -/
theorem number_lt_number_iff {a b : Date} : a.number < b.number ↔ a < b := by
  refine ⟨fun numbers => ?_, number_lt_number⟩
  rcases a.lt_or_eq_or_lt b with before | rfl | after
  · exact before
  · exact absurd numbers (Int.lt_irrefl _)
  · exact absurd (number_lt_number after) (Int.lt_asymm numbers)

theorem number_inj {a b : Date} : a.number = b.number ↔ a = b := by
  refine ⟨fun numbers => ?_, congrArg number⟩
  rcases a.lt_or_eq_or_lt b with before | same | after
  · exact absurd numbers (Int.ne_of_lt (number_lt_number before))
  · exact same
  · exact absurd numbers.symm (Int.ne_of_lt (number_lt_number after))

theorem ofNumber_inj {m n : Int} : ofNumber m = ofNumber n ↔ m = n := by
  rw [← number_inj, number_ofNumber, number_ofNumber]

theorem ofNumber_lt_ofNumber_iff {m n : Int} : ofNumber m < ofNumber n ↔ m < n := by
  rw [← number_lt_number_iff, number_ofNumber, number_ofNumber]

/-! ## The next date -/

theorem monthLength_pos {month : Nat} (leap : Bool) (inside : 1 ≤ month ∧ month ≤ 12) :
    1 ≤ monthLength leap month := by
  have all : ∀ leap, ∀ month ≤ 12, 1 ≤ month → 1 ≤ monthLength leap month := by decide
  exact all leap month inside.2 inside.1

/-- The date after a date: in the same month, or the first of the next month, or 1 January. -/
def next (date : Date) : Date :=
  if inMonth : date.day < monthLength (isLeapYear date.year) date.month then
    ⟨date.year, date.month, date.day + 1, Nat.succ_pos _, inMonth⟩
  else if inYear : date.month < 12 then
    ⟨date.year, date.month + 1, 1, Nat.le_refl 1, monthLength_pos _ ⟨Nat.succ_pos _, inYear⟩⟩
  else ⟨date.year + 1, 1, 1, Nat.le_refl 1, monthLength_pos _ (by decide)⟩

theorem number_next (date : Date) : date.next.number = date.number + 1 := by
  have months := date.month_bounds
  have valid := date.valid
  rw [next]
  split
  · simp only [number]
    omega
  · split
    · simp only [number, daysBefore]
      omega
    · -- 31 December is as many days into its year as the year is long
      have december : date.month = 12 := by omega
      have whole : ∀ leap, daysBefore leap 12 + monthLength leap 12 = yearLength leap := by decide
      have january : ∀ leap, daysBefore leap 1 = 0 := by decide
      have all := whole (isLeapYear date.year)
      rw [december] at valid
      simp only [number, yearStart_succ, january, december] at *
      omega

/-- Counting on by one goes to the next date. -/
theorem ofNumber_add_one (n : Int) : ofNumber (n + 1) = (ofNumber n).next := by
  rw [← number_inj, number_ofNumber, number_next, number_ofNumber]

end Date

/-! ## Instants -/

namespace Instant

theorem le_iff {a b : Instant} :
    a ≤ b ↔ a.seconds < b.seconds ∨ (a.seconds = b.seconds ∧ a.nanos ≤ b.nanos) := by
  show a < b ∨ a = b ↔ _
  rw [lt_iff]
  constructor
  · rintro (before | rfl)
    · omega
    · exact Or.inr ⟨rfl, Nat.le_refl _⟩
  · intro le
    by_cases same : a.seconds = b.seconds ∧ a.nanos = b.nanos
    · exact Or.inr (eq_of_parts same.1 same.2)
    · omega

instance : LinearOrder Instant where
  le := (· ≤ ·)
  lt := (· < ·)
  le_refl a := Or.inr rfl
  le_trans a b c := by
    rw [le_iff, le_iff, le_iff]
    omega
  lt_iff_le_not_ge a b := by
    rw [lt_iff, le_iff, le_iff]
    omega
  le_antisymm a b before after := by
    rw [le_iff] at before after
    exact eq_of_parts (by omega) (by omega)
  le_total a b := by
    rw [le_iff, le_iff]
    omega
  toDecidableLE := inferInstance
  toDecidableEq := inferInstance
  toDecidableLT := inferInstance

/-- The date of an instant. -/
def date (instant : Instant) : Date :=
  Date.ofNumber instant.day

theorem date_eq_iff {a b : Instant} : a.date = b.date ↔ a.day = b.day :=
  Date.ofNumber_inj

/-- The instants before a day are those of earlier days, leap seconds and all. -/
theorem lt_ofDay_iff {instant : Instant} {number : Int} :
    instant < ofDay number ↔ instant.day < number := by
  rw [lt_iff]
  show instant.seconds < number * 86400 ∨ _ ∧ instant.nanos < 0 ↔ instant.seconds / 86400 < number
  omega

theorem ofDay_le_iff {instant : Instant} {number : Int} :
    ofDay number ≤ instant ↔ number ≤ instant.day := by
  rw [← not_lt, lt_ofDay_iff, Int.not_lt]

end Instant

end DocumentQuery
