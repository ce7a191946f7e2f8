import DocumentQuery.Proofs.Calendar.Order
import DocumentQuery.Proofs.Text.Order

/-!
Written instants in the order of their texts.

The written form of an instant goes from the year down to the millisecond, and each number has as many
digits as it can need. So in the years with four digits the texts are ordered like the instants in whole
milliseconds (`Instant.bytes_text_lt_iff`). A leap second is written as second 60 and so comes behind
second 59 and before the next minute, where it belongs.
-/

namespace DocumentQuery

namespace Timestamp

/-! ## Times of day -/

/-- Two times of day, each with its leap second at the end of a minute only: the parts that are written
decide like the seconds and the milliseconds. -/
theorem timeOfDay_lt_iff {second second' nanos nanos' : Nat}
    (bound : nanos < 2 * 10 ^ 9) (bound' : nanos' < 2 * 10 ^ 9)
    (leap : 10 ^ 9 ≤ nanos → second % 60 = 59) (leap' : 10 ^ 9 ≤ nanos' → second' % 60 = 59) :
    (second / 3600 < second' / 3600 ∨ (second / 3600 = second' / 3600 ∧
      (second / 60 % 60 < second' / 60 % 60 ∨ (second / 60 % 60 = second' / 60 % 60 ∧
        (second % 60 + nanos / 10 ^ 9 < second' % 60 + nanos' / 10 ^ 9 ∨
          (second % 60 + nanos / 10 ^ 9 = second' % 60 + nanos' / 10 ^ 9 ∧
            nanos % 10 ^ 9 / 10 ^ 6 < nanos' % 10 ^ 9 / 10 ^ 6)))))) ↔
      second < second' ∨ (second = second' ∧ nanos / 10 ^ 6 < nanos' / 10 ^ 6) := by
  omega

/-! ## The written form -/

/-- The numbers of the written form, each with what stands behind it. -/
theorem write_eq {instant : Instant} (fourDigits : instant.HasFourDigitYear) :
    write instant =
      Text.padded 4 instant.date.year.toNat ++ '-' :: (Text.padded 2 instant.date.month ++
        '-' :: (Text.padded 2 instant.date.day ++
          'T' :: (Text.padded 2 (instant.secondOfDay / 3600) ++
            ':' :: (Text.padded 2 (instant.secondOfDay / 60 % 60) ++
              ':' :: (Text.padded 2 (instant.secondOfDay % 60 + instant.nanos / 10 ^ 9) ++
                '.' :: (Text.padded 3 (instant.nanos % 10 ^ 9 / 10 ^ 6) ++ ['Z'])))))) := by
  have year : 0 ≤ (Date.ofNumber instant.day).year ∧ (Date.ofNumber instant.day).year ≤ 9999 :=
    fourDigits
  unfold write dateText yearText timeText
  rw [if_pos year]
  simp only [List.append_assoc, List.cons_append]
  rfl

/-- The dates decide, and the times of day where the dates are the same. -/
theorem write_lt_write_iff {x y : Instant} (left : x.HasFourDigitYear) (right : y.HasFourDigitYear) :
    write x < write y ↔ x.date < y.date ∨ (x.date = y.date ∧
      (x.secondOfDay < y.secondOfDay ∨
        (x.secondOfDay = y.secondOfDay ∧ x.nanos / 10 ^ 6 < y.nanos / 10 ^ 6))) := by
  have leftYear : 0 ≤ x.date.year ∧ x.date.year ≤ 9999 := left
  have rightYear : 0 ≤ y.date.year ∧ y.date.year ≤ 9999 := right
  have leftMonth := x.date.month_bounds
  have rightMonth := y.date.month_bounds
  have leftDay := x.date.day_bounds
  have rightDay := y.date.day_bounds
  have leftSecond := secondOfDay_lt x
  have rightSecond := secondOfDay_lt y
  have leftNanos := x.nanos_lt
  have rightNanos := y.nanos_lt
  have before : x.date < y.date ↔ x.date.year.toNat < y.date.year.toNat ∨
      (x.date.year.toNat = y.date.year.toNat ∧ (x.date.month < y.date.month ∨
        (x.date.month = y.date.month ∧ x.date.day < y.date.day))) := by
    rw [Date.lt_iff]
    omega
  have same : x.date = y.date ↔ x.date.year.toNat = y.date.year.toNat ∧
      x.date.month = y.date.month ∧ x.date.day = y.date.day :=
    ⟨fun dates => by rw [dates]; exact ⟨rfl, rfl, rfl⟩,
      fun parts => Date.eq_of_parts (by omega) parts.2.1 parts.2.2⟩
  rw [write_eq left, write_eq right, before, same,
    ← timeOfDay_lt_iff leftNanos rightNanos secondOfDay_of_leap secondOfDay_of_leap,
    Text.padded_cons_lt_iff (by decide) (by omega) (by omega),
    Text.padded_cons_lt_iff (by decide) (by omega) (by omega),
    Text.padded_cons_lt_iff (by decide) (by omega) (by omega),
    Text.padded_cons_lt_iff (by decide) (by omega) (by omega),
    Text.padded_cons_lt_iff (by decide) (by omega) (by omega),
    Text.padded_cons_lt_iff (by decide) (by omega) (by omega),
    Text.padded_cons_lt_iff (by decide) (by omega) (by omega)]
  -- what is left differs in how the seven numbers are bracketed
  grind

theorem isAscii_of_hasShape {pattern text : List Char} (shape : hasShape pattern text = true)
    (ascii : ∀ c ∈ pattern, Text.isAscii c = true) : ∀ c ∈ text, Text.isAscii c = true := by
  induction pattern generalizing text with
  | nil =>
    cases text with
    | nil => exact fun _ member => absurd member List.not_mem_nil
    | cons c text => cases shape
  | cons p pattern ih =>
    cases text with
    | nil => cases shape
    | cons c text =>
      rw [List.forall_mem_cons] at ascii ⊢
      rw [hasShape, Bool.and_eq_true] at shape
      obtain ⟨first, rest⟩ := shape
      refine ⟨?_, ih rest ascii.2⟩
      split at first
      · exact Text.isAscii_of_isDigit first
      · rw [of_decide_eq_true first]
        exact ascii.1

theorem isAscii_of_mem_write {instant : Instant} (fourDigits : instant.HasFourDigitYear) :
    ∀ c ∈ write instant, Text.isAscii c = true :=
  isAscii_of_hasShape (hasShape_write fourDigits) (List.all_eq_true.mp (by decide))

end Timestamp

namespace Instant

/-! ## Whole milliseconds -/

theorem truncateToMillis_lt_iff {x y : Instant} :
    x.truncateToMillis < y.truncateToMillis ↔ x.date < y.date ∨ (x.date = y.date ∧
      (x.secondOfDay < y.secondOfDay ∨
        (x.secondOfDay = y.secondOfDay ∧ x.nanos / 10 ^ 6 < y.nanos / 10 ^ 6))) := by
  have left : ((x.secondOfDay : Nat) : Int) = x.seconds % 86400 := Int.toNat_of_nonneg (by omega)
  have right : ((y.secondOfDay : Nat) : Int) = y.seconds % 86400 := Int.toNat_of_nonneg (by omega)
  rw [date_eq_iff, date, date, Date.ofNumber_lt_ofNumber_iff, lt_iff]
  show x.seconds < y.seconds ∨
    (x.seconds = y.seconds ∧ x.nanos / 10 ^ 6 * 10 ^ 6 < y.nanos / 10 ^ 6 * 10 ^ 6) ↔ _
  unfold day
  omega

variable {x y : Instant}

/-- Written instants are ordered, byte by byte, like the instants in whole milliseconds. -/
theorem bytes_text_lt_iff (left : x.HasFourDigitYear) (right : y.HasFourDigitYear) :
    Text.bytes x.text < Text.bytes y.text ↔ x.truncateToMillis < y.truncateToMillis := by
  rw [truncateToMillis_lt_iff, ← Timestamp.write_lt_write_iff left right]
  exact Text.bytes_lt_bytes_iff (Timestamp.isAscii_of_mem_write left)
    (Timestamp.isAscii_of_mem_write right)

theorem bytes_text_le_iff (left : x.HasFourDigitYear) (right : y.HasFourDigitYear) :
    Text.bytes x.text ≤ Text.bytes y.text ↔ x.truncateToMillis ≤ y.truncateToMillis := by
  rw [← not_lt, ← bytes_text_lt_iff right left]
  exact Iff.rfl

/-- Two instants have one written form when they are the same in whole milliseconds. -/
theorem text_inj (left : x.HasFourDigitYear) (right : y.HasFourDigitYear) :
    x.text = y.text ↔ x.truncateToMillis = y.truncateToMillis := by
  constructor
  · intro texts
    have read := Timestamp.read?_write left
    rw [← toList_text, texts, toList_text, Timestamp.read?_write right] at read
    exact (Option.some.inj read).symm
  · intro millis
    rw [← x.text_truncateToMillis, millis, y.text_truncateToMillis]

end Instant

end DocumentQuery
