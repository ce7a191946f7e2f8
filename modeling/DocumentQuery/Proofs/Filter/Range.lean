import DocumentQuery.Proofs.Calendar.WrittenOrder
import DocumentQuery.Proofs.Filter.Dates

/-!
What range clauses admit.

A range clause compares the values of its field with dates. Whether a value is admitted can be asked of
instants, and, since a date is sent as its timestamp, of the bytes of texts. `Operator.Relates` says what
a range operator means, without its clause; the clause says the same of instants
(`Operator.admits_instant_iff`) and, to the millisecond, of texts.
-/

namespace DocumentQuery

/-! ## Conditions -/

section Conditions

variable {α : Type} [LT α] [LE α]

/-- What a symbol asks of a value, given a bound. Symbols that compare nothing admit nothing. -/
def Compares (symbol : String) (value bound : α) : Prop :=
  if symbol = "$lt" then value < bound
  else if symbol = "$lte" then value ≤ bound
  else if symbol = "$gt" then bound < value
  else if symbol = "$gte" then bound ≤ value
  else False

/-- Whether a value meets all conditions of a clause, given which bounds its operands stand for. -/
def Clause.Admits (bound? : Operand → Option α) (clause : Clause) (value : α) : Prop :=
  ∀ entry ∈ clause.predicate, ∃ bound, bound? entry.2 = some bound ∧ Compares entry.1 value bound

end Conditions

/-- The bytes of an operand that is sent as a string. -/
def Operand.bytes? (operand : Operand) : Option (List UInt8) :=
  match operand.toJson with
  | .string written => some (Text.bytes written)
  | _ => none

theorem Operand.instant?_date (date : Instant) : instant? (.date date) = some date := rfl

theorem Operand.bytes?_date (date : Instant) : bytes? (.date date) = some (Text.bytes date.text) := rfl

namespace Operator

/-! ## Range operators -/

/-- Whether an operator compares dates. -/
def isRange : Operator → Bool
  | lt | lte | gt | gte | eqDate => true
  | _ => false

/-- What a range operator asks of an instant, given the date that it is compared with. -/
def Relates : Operator → Instant → Instant → Prop
  | lt, instant, date => instant < date
  | lte, instant, date => instant ≤ date
  | gt, instant, date => date < instant
  | gte, instant, date => date ≤ instant
  | eqDate, instant, date => instant.date = date.date
  | _, _, _ => False

section Bounds

variable {α : Type} [LT α] [LE α] {bound? : Operand → Option α}

theorem admits_rangeClause_iff {boundOf : Instant → α}
    (bounds : ∀ date, bound? (.date date) = some (boundOf date)) (field : String)
    (start stop : Instant) (value : α) :
    (rangeClause field start stop).Admits bound? value ↔
      boundOf start ≤ value ∧ value < boundOf stop := by
  simp [Clause.Admits, rangeClause, bounds, Compares]

/-- A clause for a single bound compares with it in the operator's order. -/
theorem admits_clause_iff {boundOf : Instant → α}
    (bounds : ∀ date, bound? (.date date) = some (boundOf date)) (field : String) (date : Instant)
    (value : α) :
    ((lt.clause field (.date date)).Admits bound? value ↔ value < boundOf date) ∧
      ((lte.clause field (.date date)).Admits bound? value ↔ value ≤ boundOf date) ∧
      ((gt.clause field (.date date)).Admits bound? value ↔ boundOf date < value) ∧
      ((gte.clause field (.date date)).Admits bound? value ↔ boundOf date ≤ value) := by
  refine ⟨?_, ?_, ?_, ?_⟩ <;>
    · rw [clause_of_not_spansDay rfl]
      simp [Clause.Admits, plainClause, symbol, options, bounds, Compares]

end Bounds

end Operator

/-! ## Days -/

namespace Instant

theorem dayBounds?_eq_some_iff {instant start stop : Instant} :
    instant.dayBounds? = some (start, stop) ↔
      instant.day < lastDay ∧ start = ofDay instant.day ∧ stop = ofDay (instant.day + 1) := by
  unfold dayBounds?
  split
  · next before => simp [before, eq_comm]
  · next last => simp [last]

theorem day_lt_lastDay {instant : Instant} (fourDigits : instant.HasFourDigitYear) :
    instant.day < lastDay := by
  have last : yearStart 10000 < lastDay := by decide
  have bounds := hasFourDigitYear_iff.mp fourDigits
  omega

theorem truncateToMillis_ofDay (number : Int) :
    (ofDay number).truncateToMillis = ofDay number :=
  truncateToMillis_eq_self_iff.mpr (Nat.dvd_zero _)

/-- The instants of a day are those from its first up to the first of the next day. -/
theorem mem_day_iff {instant : Instant} {number : Int} :
    ofDay number ≤ instant ∧ instant < ofDay (number + 1) ↔ instant.day = number := by
  rw [ofDay_le_iff, lt_ofDay_iff]
  omega

end Instant

namespace Operator

theorem clause_eqDate {date start stop : Instant} (bounds : date.dayBounds? = some (start, stop))
    (field : String) : eqDate.clause field (.date date) = rangeClause field start stop := by
  unfold clause
  simp only [spansDay, Operand.instant?, Option.bind_some, bounds]

theorem clause_eqDate_of_lt {date : Instant} (before : date.day < Instant.lastDay) (field : String) :
    eqDate.clause field (.date date) =
      rangeClause field (.ofDay date.day) (.ofDay (date.day + 1)) :=
  clause_eqDate (Instant.dayBounds?_eq_some_iff.mpr ⟨before, rfl, rfl⟩) field

/-- The clause of a range operator admits the instants that the operator means. -/
theorem admits_instant_iff {operator : Operator} (range : operator.isRange = true) (field : String)
    {date : Instant} (before : date.day < Instant.lastDay) (instant : Instant) :
    (operator.clause field (.date date)).Admits Operand.instant? instant ↔
      operator.Relates instant date := by
  obtain ⟨less, atMost, greater, atLeast⟩ :=
    admits_clause_iff Operand.instant?_date field date instant
  cases operator with
  | lt => exact less
  | lte => exact atMost
  | gt => exact greater
  | gte => exact atLeast
  | eqDate =>
    rw [clause_eqDate_of_lt before, admits_rangeClause_iff Operand.instant?_date, Relates,
      Instant.date_eq_iff]
    exact Instant.mem_day_iff
  | _ => cases range

/-- As texts the clause admits the instants that the operator means, to the millisecond. -/
theorem admits_bytes_iff {operator : Operator} (range : operator.isRange = true) {field : String}
    {instant date : Instant} (left : instant.HasFourDigitYear) (right : date.HasFourDigitYear)
    (dates : ∀ bound ∈ (operator.clause field (.date date)).dates, bound.HasFourDigitYear) :
    (operator.clause field (.date date)).Admits Operand.bytes? (Text.bytes instant.text) ↔
      operator.Relates instant.truncateToMillis date.truncateToMillis := by
  obtain ⟨less, atMost, greater, atLeast⟩ :=
    admits_clause_iff Operand.bytes?_date field date (Text.bytes instant.text)
  cases operator with
  | lt => exact less.trans (Instant.bytes_text_lt_iff left right)
  | lte => exact atMost.trans (Instant.bytes_text_le_iff left right)
  | gt => exact greater.trans (Instant.bytes_text_lt_iff right left)
  | gte => exact atLeast.trans (Instant.bytes_text_le_iff right left)
  | eqDate =>
    rw [clause_eqDate_of_lt (Instant.day_lt_lastDay right)] at dates ⊢
    have start : (Instant.ofDay date.day).HasFourDigitYear :=
      dates _ List.mem_cons_self
    have stop : (Instant.ofDay (date.day + 1)).HasFourDigitYear :=
      dates _ (List.mem_cons_of_mem _ List.mem_cons_self)
    -- both bounds are midnights, which have no part of a millisecond to lose
    rw [admits_rangeClause_iff Operand.bytes?_date, Instant.bytes_text_le_iff start left,
      Instant.bytes_text_lt_iff left stop, Instant.truncateToMillis_ofDay,
      Instant.truncateToMillis_ofDay, Relates, Instant.date_eq_iff]
    exact Instant.mem_day_iff
  | _ => cases range

end Operator

namespace Filter

/-- Instants of the years 0 to 9999 are ordered like the bytes of their texts, in whole milliseconds, and
have the same text when they are the same in whole milliseconds. So a range clause whose dates lie in
these years admits a written instant when, to the millisecond, its operator relates the instant to the
date, and as instants it admits just those that are related. -/
theorem dates_compare_as_texts {instant date : Instant} (left : instant.HasFourDigitYear)
    (right : date.HasFourDigitYear) :
    (Text.bytes instant.text < Text.bytes date.text ↔
        instant.truncateToMillis < date.truncateToMillis) ∧
      (Text.bytes date.text < Text.bytes instant.text ↔
        date.truncateToMillis < instant.truncateToMillis) ∧
      (instant.text = date.text ↔ instant.truncateToMillis = date.truncateToMillis) ∧
      ∀ operator : Operator, operator.isRange = true → ∀ field,
        (∀ bound ∈ (operator.clause field (.date date)).dates, bound.HasFourDigitYear) →
          ((operator.clause field (.date date)).Admits Operand.instant? instant ↔
              operator.Relates instant date) ∧
            ((operator.clause field (.date date)).Admits Operand.bytes? (Text.bytes instant.text) ↔
              operator.Relates instant.truncateToMillis date.truncateToMillis) := by
  refine ⟨Instant.bytes_text_lt_iff left right, Instant.bytes_text_lt_iff right left,
    Instant.text_inj left right, fun operator range field dates => ⟨?_, ?_⟩⟩
  · exact Operator.admits_instant_iff range field (Instant.day_lt_lastDay right) instant
  · exact Operator.admits_bytes_iff range left right dates

/-- The last leap second of 2016 is written behind the second before it and in front of 2017, and belongs
to the last day of 2016. -/
theorem dates_compare_as_texts_leap_second :
    let leap : Instant := ⟨1483228799, 1999999999, by decide, by decide⟩
    let before : Instant := ⟨1483228799, 999000000, by decide, by decide⟩
    let newYear : Instant := .ofDay 17167
    leap.HasFourDigitYear ∧ before.HasFourDigitYear ∧ newYear.HasFourDigitYear ∧
      Text.bytes before.text < Text.bytes leap.text ∧
      Text.bytes leap.text < Text.bytes newYear.text ∧
      (Operator.lt.clause "at" (.date newYear)).Admits Operand.bytes? (Text.bytes leap.text) ∧
      (Operator.eqDate.clause "at" (.date before)).Admits Operand.bytes? (Text.bytes leap.text) ∧
      ¬ (Operator.eqDate.clause "at" (.date newYear)).Admits Operand.bytes? (Text.bytes leap.text) := by
  intro leap before newYear
  have inLeap : leap.HasFourDigitYear := by decide +kernel
  have inBefore : before.HasFourDigitYear := by decide +kernel
  have inNewYear : newYear.HasFourDigitYear := by decide +kernel
  have inDay : ∀ bound ∈ (Operator.eqDate.clause "at" (.date before)).dates, bound.HasFourDigitYear := by
    decide +kernel
  have inNextDay :
      ∀ bound ∈ (Operator.eqDate.clause "at" (.date newYear)).dates, bound.HasFourDigitYear := by
    decide +kernel
  have inTime : ∀ bound ∈ (Operator.lt.clause "at" (.date newYear)).dates, bound.HasFourDigitYear := by
    decide +kernel
  have later : before.truncateToMillis < leap.truncateToMillis := by decide +kernel
  have earlier : leap.truncateToMillis < newYear.truncateToMillis := by decide +kernel
  have sameDay : leap.truncateToMillis.date = before.truncateToMillis.date := by decide +kernel
  have otherDay : leap.truncateToMillis.date ≠ newYear.truncateToMillis.date := by decide +kernel
  obtain ⟨_, behind, _, onDay⟩ := dates_compare_as_texts inLeap inBefore
  obtain ⟨inFront, _, _, conditions⟩ := dates_compare_as_texts inLeap inNewYear
  refine ⟨inLeap, inBefore, inNewYear, behind.mpr later, inFront.mpr earlier, ?_, ?_, ?_⟩
  · exact (conditions .lt rfl "at" inTime).2.mpr earlier
  · exact (onDay .eqDate rfl "at" inDay).2.mpr sameDay
  · exact fun admitted => otherDay ((conditions .eqDate rfl "at" inNextDay).2.mp admitted)

end Filter

end DocumentQuery
