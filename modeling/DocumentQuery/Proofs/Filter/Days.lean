import DocumentQuery.Proofs.Filter.Range
import DocumentQuery.Proofs.Filter.Shape
import Mathlib.Data.Set.Pairwise.Lattice
import Mathlib.Order.CompletePartialOrder
import Mathlib.Order.Interval.Set.Basic

/-!
The ranges of days.

A date under `eqDate` stands for the range from the start of its day up to the start of the next. The
ranges of two instants are the same or have nothing in common, as the instants have the same date or
not, and each range begins where the one of the day before ends. Together they are all of the calendar
but its last day, which has no day after it (`Instant.days_partition_calendar`).
-/

namespace DocumentQuery.Instant

/-! ## The calendar -/

/-- Whether an instant lies in the years of the calendar. -/
def InCalendar (instant : Instant) : Prop :=
  -262143 ≤ instant.year ∧ instant.year ≤ 262142

instance (instant : Instant) : Decidable instant.InCalendar :=
  inferInstanceAs (Decidable (_ ∧ _))

/-- The last date of the calendar. -/
def lastDate : Date :=
  ⟨262142, 12, 31, by decide⟩

theorem number_lastDate : lastDate.number = lastDay := by
  decide

theorem date_eq_lastDate_iff {instant : Instant} : instant.date = lastDate ↔ instant.day = lastDay := by
  rw [← Date.number_inj, number_lastDate, date, Date.number_ofNumber]

theorem inCalendar_iff {instant : Instant} :
    instant.InCalendar ↔ yearStart (-262143) ≤ instant.day ∧ instant.day ≤ lastDay := by
  have first : -262143 ≤ instant.year ↔ yearStart (-262143) ≤ instant.day := le_yearOf_iff
  have last : instant.year < 262143 ↔ instant.day < yearStart 262143 := yearOf_lt_iff
  have ended : yearStart 262143 = lastDay + 1 := by decide
  unfold InCalendar
  omega

/-! ## Two ranges -/

theorem dayBounds?_eq_none_iff {instant : Instant} (inside : instant.InCalendar) :
    instant.dayBounds? = none ↔ instant.date = lastDate := by
  have bounds := inCalendar_iff.mp inside
  rw [date_eq_lastDate_iff]
  unfold dayBounds?
  split
  · next before => exact iff_of_false nofun (Int.ne_of_lt before)
  · next last => exact iff_of_true rfl (by omega)

/-- The range of a day holds the instants of the day. -/
theorem mem_range_iff {instant : Instant} {number : Int} :
    instant ∈ Set.Ico (ofDay number) (ofDay (number + 1)) ↔ instant.day = number :=
  mem_day_iff

theorem ofDay_mem_range (number : Int) :
    ofDay number ∈ Set.Ico (ofDay number) (ofDay (number + 1)) :=
  mem_range_iff.mpr (day_ofDay number)

theorem range_inj {m n : Int} :
    Set.Ico (ofDay m) (ofDay (m + 1)) = Set.Ico (ofDay n) (ofDay (n + 1)) ↔ m = n := by
  constructor
  · intro same
    have start := ofDay_mem_range m
    rw [same, mem_range_iff, day_ofDay] at start
    exact start
  · rintro rfl
    rfl

theorem disjoint_range {m n : Int} (ne : m ≠ n) :
    Disjoint (Set.Ico (ofDay m) (ofDay (m + 1))) (Set.Ico (ofDay n) (ofDay (n + 1))) := by
  rw [Set.disjoint_left]
  intro instant left right
  exact ne ((mem_range_iff.mp left).symm.trans (mem_range_iff.mp right))

/-! ## All ranges -/

/-- The ranges of the instants of the calendar. -/
def dayRanges : Set (Set Instant) :=
  {range | ∃ instant start stop : Instant, instant.InCalendar ∧
    instant.dayBounds? = some (start, stop) ∧ range = Set.Ico start stop}

theorem mem_dayRanges_iff {range : Set Instant} :
    range ∈ dayRanges ↔ ∃ number, (ofDay number).InCalendar ∧ number < lastDay ∧
      range = Set.Ico (ofDay number) (ofDay (number + 1)) := by
  constructor
  · rintro ⟨instant, start, stop, inside, bounds, rfl⟩
    obtain ⟨before, rfl, rfl⟩ := dayBounds?_eq_some_iff.mp bounds
    rw [inCalendar_iff] at inside
    exact ⟨instant.day, inCalendar_iff.mpr (by rwa [day_ofDay]), before, rfl⟩
  · rintro ⟨number, inside, before, rfl⟩
    refine ⟨ofDay number, _, _, inside, dayBounds?_eq_some_iff.mpr ⟨?_, rfl, rfl⟩, ?_⟩
    · rwa [day_ofDay]
    · rw [day_ofDay]

/-- The ranges hold all instants of the calendar but those of its last day. -/
theorem sUnion_dayRanges :
    ⋃₀ dayRanges = {instant | instant.InCalendar ∧ instant.date ≠ lastDate} := by
  ext instant
  rw [Set.mem_sUnion]
  constructor
  · rintro ⟨range, member, inside⟩
    obtain ⟨number, calendar, before, rfl⟩ := mem_dayRanges_iff.mp member
    obtain rfl := mem_range_iff.mp inside
    rw [inCalendar_iff, day_ofDay, ← inCalendar_iff] at calendar
    refine ⟨calendar, fun last => ?_⟩
    exact Int.ne_of_lt before (date_eq_lastDate_iff.mp last)
  · rintro ⟨calendar, notLast⟩
    have bounds := inCalendar_iff.mp calendar
    have before : instant.day ≠ lastDay := fun last => notLast (date_eq_lastDate_iff.mpr last)
    refine ⟨_, mem_dayRanges_iff.mpr ⟨instant.day, ?_, by omega, rfl⟩, mem_range_iff.mpr rfl⟩
    rwa [inCalendar_iff, day_ofDay]

theorem pairwiseDisjoint_dayRanges : dayRanges.PairwiseDisjoint id := by
  intro left leftMember right rightMember ne
  obtain ⟨m, _, _, rfl⟩ := mem_dayRanges_iff.mp leftMember
  obtain ⟨n, _, _, rfl⟩ := mem_dayRanges_iff.mp rightMember
  refine disjoint_range fun same => ne ?_
  rw [same]

theorem nonempty_of_mem_dayRanges {range : Set Instant} (member : range ∈ dayRanges) :
    range.Nonempty := by
  obtain ⟨number, _, _, rfl⟩ := mem_dayRanges_iff.mp member
  exact ⟨ofDay number, ofDay_mem_range number⟩

/-! ## The partition -/

/-- Of the instants of the calendar, only those of the last day have no range. The range of any other
starts at the midnight at or before it and ends at the midnight of the next date, a day of 86400
seconds later; `eqDate` with the instant admits what lies in the range. The ranges of two instants are
the same when the instants have the same date, and otherwise have nothing in common; where the second
date is the next after the first, the second range begins where the first ends. So the ranges divide
all of the calendar before its last day among them. -/
theorem days_partition_calendar :
    (∀ instant : Instant, instant.InCalendar →
      (instant.dayBounds? = none ↔ instant.date = lastDate)) ∧
    (∀ instant start stop : Instant, instant.InCalendar → instant.dayBounds? = some (start, stop) →
      (start ≤ instant ∧ instant < stop) ∧ (start.IsMidnight ∧ stop.IsMidnight) ∧
        (start.date = instant.date ∧ stop.date = instant.date.next) ∧
        stop.seconds = start.seconds + 86400 ∧ (start.InCalendar ∧ stop.InCalendar) ∧
        ∀ field other, (Operator.eqDate.clause field (.date instant)).Admits Operand.instant? other ↔
          other ∈ Set.Ico start stop) ∧
    (∀ instant start stop other start' stop' : Instant, instant.dayBounds? = some (start, stop) →
      other.dayBounds? = some (start', stop') →
        (Set.Ico start stop = Set.Ico start' stop' ↔ instant.date = other.date) ∧
        (instant.date ≠ other.date → Disjoint (Set.Ico start stop) (Set.Ico start' stop')) ∧
        (other.date = instant.date.next → start' = stop)) ∧
    ⋃₀ dayRanges = {instant | instant.InCalendar ∧ instant.date ≠ lastDate} ∧
    dayRanges.PairwiseDisjoint id ∧ ∀ range ∈ dayRanges, range.Nonempty := by
  refine ⟨fun _ => dayBounds?_eq_none_iff, ?_, ?_, sUnion_dayRanges, pairwiseDisjoint_dayRanges,
    fun _ => nonempty_of_mem_dayRanges⟩
  · intro instant start stop calendar bounds
    obtain ⟨before, rfl, rfl⟩ := dayBounds?_eq_some_iff.mp bounds
    have days := inCalendar_iff.mp calendar
    refine ⟨mem_day_iff.mpr rfl, ⟨isMidnight_ofDay _, isMidnight_ofDay _⟩, ⟨?_, ?_⟩, ?_, ⟨?_, ?_⟩, ?_⟩
    · rw [date_eq_iff, day_ofDay]
    · rw [date, day_ofDay, Date.ofNumber_add_one]
      rfl
    · show (instant.day + 1) * 86400 = instant.day * 86400 + 86400
      omega
    · rwa [inCalendar_iff, day_ofDay]
    · rw [inCalendar_iff, day_ofDay]
      omega
    · intro field other
      rw [Operator.clause_eqDate bounds, Operator.admits_rangeClause_iff Operand.instant?_date]
      exact Iff.rfl
  · intro instant start stop other start' stop' bounds bounds'
    obtain ⟨_, rfl, rfl⟩ := dayBounds?_eq_some_iff.mp bounds
    obtain ⟨_, rfl, rfl⟩ := dayBounds?_eq_some_iff.mp bounds'
    refine ⟨range_inj.trans date_eq_iff.symm, fun dates => ?_, fun next => ?_⟩
    · exact disjoint_range fun days => dates (date_eq_iff.mpr days)
    · rw [date, date, ← Date.ofNumber_add_one, Date.ofNumber_inj] at next
      rw [next]

/-- A leap second before 1970 lies in the last range of 1969, which has nothing in common with the first
range of 1970 and ends where that begins; the last day of the calendar has no range. -/
theorem days_partition_calendar_leap_second :
    let leap : Instant := ⟨-1, 1500000000, by decide, by decide⟩
    let noon : Instant := ⟨43200, 0, by decide, by decide⟩
    let last : Instant := .ofDay lastDay
    last.InCalendar ∧ last.dayBounds? = none ∧
      leap.InCalendar ∧ leap.dayBounds? = some (.ofDay (-1), .ofDay 0) ∧
      (.ofDay (-1) ≤ leap ∧ leap < .ofDay 0) ∧
      leap.date = ⟨1969, 12, 31, by decide⟩ ∧ noon.date = ⟨1970, 1, 1, by decide⟩ ∧
      noon.dayBounds? = some (.ofDay 0, .ofDay 1) ∧ noon.date = leap.date.next ∧
      Disjoint (Set.Ico (ofDay (-1)) (.ofDay 0)) (Set.Ico (.ofDay 0) (.ofDay 1)) := by
  intro leap noon last
  have lastInside : last.InCalendar := by decide +kernel
  have leapInside : leap.InCalendar := by decide +kernel
  have lastIs : last.date = lastDate := by decide +kernel
  have leapBounds : leap.dayBounds? = some (.ofDay (-1), .ofDay 0) := by decide +kernel
  have noonBounds : noon.dayBounds? = some (.ofDay 0, .ofDay 1) := by decide +kernel
  have leapDate : leap.date = ⟨1969, 12, 31, by decide⟩ := by decide +kernel
  have noonDate : noon.date = ⟨1970, 1, 1, by decide⟩ := by decide +kernel
  have next : noon.date = leap.date.next := by decide +kernel
  have other : leap.date ≠ noon.date := by decide +kernel
  obtain ⟨rangeless, ranges, pairs, _⟩ := days_partition_calendar
  obtain ⟨inRange, _⟩ := ranges leap _ _ leapInside leapBounds
  obtain ⟨_, apart, _⟩ := pairs leap _ _ noon _ _ leapBounds noonBounds
  exact ⟨lastInside, (rangeless last lastInside).mpr lastIs, leapInside, leapBounds, inRange, leapDate,
    noonDate, noonBounds, next, apart other⟩

end DocumentQuery.Instant
