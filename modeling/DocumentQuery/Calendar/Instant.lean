import DocumentQuery.Calendar.Date
import DocumentQuery.Power

/-!
Points in time, in coordinated universal time.

An instant is a count of whole seconds since the start of 1970 and of nanoseconds into that second.
The last second of a minute may be followed by a leap second: it has no number of its own, but
prolongs the second before it, whose nanoseconds then run on from `10 ^ 9`. Instants are ordered by
seconds and then by nanoseconds, so a leap second comes before the minute that follows it.
-/

namespace DocumentQuery

/-- A point in time. -/
structure Instant where
  /-- Whole seconds since 1970 began, leap seconds not counted. -/
  seconds : Int
  /-- Nanoseconds into the second, with those of a leap second after it. -/
  nanos : Nat
  nanos_lt : nanos < 2 * 10 ^ 9
  /-- Only the last second of a minute is prolonged. -/
  leap : 10 ^ 9 ≤ nanos → seconds % 60 = 59
  deriving DecidableEq

namespace Instant

/-- The instant with the given parts, if there is one. -/
def ofParts? (seconds : Int) (nanos : Nat) : Option Instant :=
  if h : nanos < 2 * 10 ^ 9 ∧ (10 ^ 9 ≤ nanos → seconds % 60 = 59) then
    some ⟨seconds, nanos, h.1, h.2⟩
  else none

instance : LT Instant :=
  ⟨fun a b => a.seconds < b.seconds ∨ (a.seconds = b.seconds ∧ a.nanos < b.nanos)⟩

instance : LE Instant :=
  ⟨fun a b => a < b ∨ a = b⟩

instance (a b : Instant) : Decidable (a < b) :=
  inferInstanceAs (Decidable (_ ∨ _ ∧ _))

instance (a b : Instant) : Decidable (a ≤ b) :=
  inferInstanceAs (Decidable (_ ∨ _))

theorem lt_iff {a b : Instant} :
    a < b ↔ a.seconds < b.seconds ∨ (a.seconds = b.seconds ∧ a.nanos < b.nanos) := Iff.rfl

/-! ## Days -/

/-- The first instant of the day with a number. -/
def ofDay (number : Int) : Instant :=
  ⟨number * 86400, 0, by decide, fun h => absurd h (by decide)⟩

/-- The number of the day that contains the instant. -/
def day (instant : Instant) : Int :=
  instant.seconds / 86400

/-- The seconds of the day before the instant. -/
def secondOfDay (instant : Instant) : Nat :=
  (instant.seconds % 86400).toNat

/-- The first instant of the instant's day. -/
def startOfDay (instant : Instant) : Instant :=
  ofDay instant.day

/-- The number of the last day of the calendar: 31 December of the year 262142. -/
def lastDay : Int := 95026236

/-- The first instant of the instant's day and of the day after. The last day of the calendar has
no day after it. -/
def dayBounds? (instant : Instant) : Option (Instant × Instant) :=
  if instant.day < lastDay then some (ofDay instant.day, ofDay (instant.day + 1)) else none

@[simp] theorem day_ofDay (number : Int) : (ofDay number).day = number := by
  simp only [day, ofDay]
  omega

/-! ## Whole milliseconds -/

/-- The instant without the part of it that is finer than a millisecond. -/
def truncateToMillis (instant : Instant) : Instant where
  seconds := instant.seconds
  nanos := instant.nanos / 10 ^ 6 * 10 ^ 6
  nanos_lt := by
    have bound := instant.nanos_lt
    omega
  leap := by
    have whole := instant.leap
    omega

end Instant

end DocumentQuery
