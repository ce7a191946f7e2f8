import DocumentQuery.Proofs.Calendar.Timestamp
import DocumentQuery.Proofs.Operand.Recognition

/-!
Dates among the texts of operands.

A text becomes a date when it is the text of a calendar date or of a timestamp, and then it is the
instant that its parts make up; other texts stay as they are but for three literals
(`Operand.text_spells_instant`). The written form of an instant is such a text, and the instant comes
back from it to the millisecond (`Operand.written_instant_read_back`).
-/

namespace DocumentQuery

/-! ## Texts that spell instants -/

/-- A date alone is no timestamp. -/
theorem Timestamp.read?_dateText {date : Date} (fourDigits : 0 ≤ date.year ∧ date.year ≤ 9999) :
    read? (dateText date) = none := by
  have taken := takeDate?_dateText fourDigits []
  rw [List.append_nil] at taken
  unfold read?
  rw [taken]
  rfl

/-- A text spells an instant as a date or as a timestamp, and in no other way. -/
theorem Instant.ofText?_eq_some_iff {text : String} {instant : Instant} :
    ofText? text = some instant ↔
      (∃ date : Date, (0 ≤ date.year ∧ date.year ≤ 9999) ∧
        text.toList = Timestamp.dateText date ∧ instant = date.midnight) ∨
      ∃ timestamp : Timestamp, text.toList = timestamp.text ∧ instant = timestamp.instant := by
  unfold ofText?
  constructor
  · intro spelled
    rcases Option.or_eq_some_iff.mp spelled with stamped | ⟨_, day⟩
    · exact Or.inr (Timestamp.read?_eq_some_iff.mp stamped)
    · obtain ⟨date, read, rfl⟩ := Option.map_eq_some_iff.mp day
      obtain ⟨fourDigits, written⟩ := Date.read?_eq_some_iff.mp read
      exact Or.inl ⟨date, fourDigits, written, (Date.midnight_eq_ofDay_number fourDigits.1).symm⟩
  · rintro (⟨date, fourDigits, written, rfl⟩ | ⟨timestamp, written, rfl⟩)
    · rw [written, Timestamp.read?_dateText fourDigits, Option.none_or,
        Date.read?_eq_some_iff.mpr ⟨fourDigits, rfl⟩, Date.midnight_eq_ofDay_number fourDigits.1]
      rfl
    · rw [Timestamp.read?_eq_some_iff.mpr ⟨timestamp, written, rfl⟩, Option.some_or]

namespace Operand

/-- A text becomes a date exactly when it is a calendar date of the years 0 to 9999, for its first
instant, or a timestamp with such a date, for the instant that its parts make up. Every other text
but the three literals stays a text. -/
theorem text_spells_instant (text : String) :
    (∀ instant, ofText text = .date instant ↔
        (∃ date : Date, (0 ≤ date.year ∧ date.year ≤ 9999) ∧
          text.toList = Timestamp.dateText date ∧ instant = date.midnight) ∨
        ∃ timestamp : Timestamp, text.toList = timestamp.text ∧ instant = timestamp.instant) ∧
      ((∀ instant, ofText text ≠ .date instant) →
        text ≠ "null" → text ≠ "true" → text ≠ "false" → ofText text = .text text) := by
  refine ⟨fun instant => ofText_eq_date_iff.trans Instant.ofText?_eq_some_iff, ?_⟩
  intro noDate null isTrue isFalse
  rcases ofText_cases text with ⟨same, _⟩ | ⟨same, _⟩ | ⟨same, _⟩ | ⟨instant, _, read⟩ | ⟨_, read⟩
  · exact absurd same null
  · exact absurd same isTrue
  · exact absurd same isFalse
  · exact absurd read (noDate instant)
  · exact read

/-- A leap second west of Greenwich whose fraction goes on after the ninth digit. -/
theorem text_spells_instant_leap_second :
    ∃ instant, ofText "2016-12-31T18:59:60.9876543219-05:00" = .date instant ∧
      instant.seconds = 1483228799 ∧ instant.nanos = 1987654321 := by
  obtain ⟨dates, _⟩ := text_spells_instant "2016-12-31T18:59:60.9876543219-05:00"
  let timestamp : Timestamp := {
    date := ⟨2016, 12, 31, by decide⟩
    fourDigits := by decide
    hour := 18
    minute := 59
    second := 60
    fraction := "9876543219".toList
    digits := List.all_eq_true.mp (by decide +kernel)
    offset := .shifted true 5 0 }
  have written : "2016-12-31T18:59:60.9876543219-05:00".toList = timestamp.text := by
    decide +kernel
  refine ⟨timestamp.instant, (dates _).mpr (Or.inr ⟨timestamp, written, rfl⟩), ?_, ?_⟩
  · decide +kernel
  · decide +kernel

/-! ## Instants read back -/

/-- The text of a date is looked at like any other, and spells the date. -/
theorem ofText_text {instant : Instant} (fourDigits : instant.HasFourDigitYear) :
    ofText instant.text = .date instant.truncateToMillis := by
  rw [ofText_eq_date_iff]
  unfold Instant.ofText?
  rw [Instant.toList_text, Timestamp.read?_write fourDigits]
  rfl

/-- An instant of the years 0 to 9999 that is written and read back loses what is finer than a
millisecond, and nothing else: the seconds are the same, also where the last of them is prolonged by a
leap second, whole milliseconds are left, and they are written like the instant itself. -/
theorem written_instant_read_back {instant : Instant} (fourDigits : instant.HasFourDigitYear) :
    ofText instant.text = .date instant.truncateToMillis ∧
      instant.truncateToMillis.seconds = instant.seconds ∧
      (∃ finer < 10 ^ 6, instant.nanos = instant.truncateToMillis.nanos + finer) ∧
      10 ^ 6 ∣ instant.truncateToMillis.nanos ∧
      instant.truncateToMillis.text = instant.text ∧
      (10 ^ 6 ∣ instant.nanos → ofText instant.text = .date instant) := by
  have back := ofText_text fourDigits
  refine ⟨back, rfl, instant.nanos_eq_truncateToMillis_add, Nat.dvd_mul_left _ _,
    instant.text_truncateToMillis, fun whole => ?_⟩
  rw [back, Instant.truncateToMillis_eq_self_iff.mpr whole]

/-- The last leap second of 2016, a nanosecond before it ends. -/
theorem written_instant_read_back_leap_second :
    let instant : Instant := ⟨1483228799, 1999999999, by decide, by decide⟩
    let millis : Instant := ⟨1483228799, 1999000000, by decide, by decide⟩
    instant.HasFourDigitYear ∧ instant.text = "2016-12-31T23:59:60.999Z" ∧
      ofText instant.text = .date millis := by
  intro instant millis
  have fourDigits : instant.HasFourDigitYear := by decide +kernel
  have cut : instant.truncateToMillis = millis := by decide +kernel
  obtain ⟨back, _⟩ := written_instant_read_back fourDigits
  rw [cut] at back
  exact ⟨fourDigits, by decide +kernel, back⟩

end Operand

end DocumentQuery
