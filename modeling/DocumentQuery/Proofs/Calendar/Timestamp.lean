import DocumentQuery.Proofs.Calendar.Grammar

/-!
Timestamps written and read back.

An instant of the years 0 to 9999 is written as `YYYY-MM-DDTHH:MM:SS.mmmZ`. This is the text of a
timestamp, whose instant is the one that was written without what is finer than a millisecond, so
reading gives that (`Timestamp.read?_write`). An instant of another year has a sign in front, and then
it is not read at all (`Timestamp.read?_write_eq_none`).
-/

namespace DocumentQuery

/-- The year of an instant. -/
def Instant.year (instant : Instant) : Int :=
  yearOf instant.day

/-- Whether an instant lies in the years that have four digits. -/
def Instant.HasFourDigitYear (instant : Instant) : Prop :=
  0 ≤ instant.year ∧ instant.year ≤ 9999

instance (instant : Instant) : Decidable instant.HasFourDigitYear :=
  inferInstanceAs (Decidable (_ ∧ _))

theorem Instant.eq_of_parts {left right : Instant} (seconds : left.seconds = right.seconds)
    (nanos : left.nanos = right.nanos) : left = right := by
  cases left
  cases right
  cases seconds
  cases nanos
  rfl

namespace Timestamp

/-! ## An instant as a timestamp -/

theorem secondOfDay_lt (instant : Instant) : instant.secondOfDay < 86400 := by
  unfold Instant.secondOfDay
  omega

/-- A second that is prolonged by a leap second is the last of its minute. -/
theorem secondOfDay_of_leap {instant : Instant} (leap : 10 ^ 9 ≤ instant.nanos) :
    instant.secondOfDay % 60 = 59 := by
  have last := instant.leap leap
  unfold Instant.secondOfDay
  omega

/-- The timestamp that is written for an instant. -/
def ofInstant (instant : Instant) (fourDigits : instant.HasFourDigitYear) : Timestamp where
  date := Date.ofNumber instant.day
  fourDigits := fourDigits
  hour := ⟨instant.secondOfDay / 3600, by
    have seconds := secondOfDay_lt instant
    omega⟩
  minute := ⟨instant.secondOfDay / 60 % 60, by omega⟩
  second := ⟨instant.secondOfDay % 60 + instant.nanos / 10 ^ 9, by
    have nanos := instant.nanos_lt
    omega⟩
  fraction := Text.padded 3 (instant.nanos % 10 ^ 9 / 10 ^ 6)
  digits := fun _ => Text.isDigit_of_mem_padded
  offset := .zulu

theorem length_fraction_ofInstant (instant : Instant) (fourDigits : instant.HasFourDigitYear) :
    (ofInstant instant fourDigits).fraction.length = 3 :=
  Text.length_padded (by decide) (by omega)

theorem text_ofInstant (instant : Instant) (fourDigits : instant.HasFourDigitYear) :
    (ofInstant instant fourDigits).text = write instant := by
  have nonempty : (ofInstant instant fourDigits).fraction ≠ [] := by
    rw [← List.length_pos_iff, length_fraction_ofInstant]
    decide
  unfold text write timeText
  rw [fractionText_of_ne_nil nonempty]
  simp only [List.append_assoc, List.cons_append]
  rfl

theorem wholeNanos_ofInstant (instant : Instant) (fourDigits : instant.HasFourDigitYear) :
    wholeNanos (ofInstant instant fourDigits).fraction =
      instant.nanos % 10 ^ 9 / 10 ^ 6 * 10 ^ 6 := by
  unfold wholeNanos
  rw [length_fraction_ofInstant]
  show Text.digitsValue (Text.padded 3 _) * 10 ^ 9 / 10 ^ 3 = _
  rw [Text.digitsValue_padded]
  omega

/-- The parts that are written make the instant, but for what is finer than a millisecond. -/
theorem instant_ofInstant (instant : Instant) (fourDigits : instant.HasFourDigitYear) :
    (ofInstant instant fourDigits).instant = instant.truncateToMillis := by
  have midnight : (ofInstant instant fourDigits).date.midnight.seconds = instant.day * 86400 := by
    show (Date.ofNumber instant.day).midnight.seconds = _
    rw [Date.seconds_midnight fourDigits.1, Date.number_ofNumber]
  have hour : (ofInstant instant fourDigits).hour.val = instant.secondOfDay / 3600 := rfl
  have minute : (ofInstant instant fourDigits).minute.val = instant.secondOfDay / 60 % 60 := rfl
  have second : (ofInstant instant fourDigits).second.val =
    instant.secondOfDay % 60 + instant.nanos / 10 ^ 9 := rfl
  have offset : (ofInstant instant fourDigits).offset.minutes = 0 := rfl
  have wholeDays : instant.day = instant.seconds / 86400 := rfl
  have ofDay : ((instant.secondOfDay : Nat) : Int) = instant.seconds % 86400 :=
    Int.toNat_of_nonneg (by omega)
  have leap : 10 ^ 9 ≤ instant.nanos → instant.secondOfDay % 60 = 59 := secondOfDay_of_leap
  have bound := instant.nanos_lt
  apply Instant.eq_of_parts
  · show _ = instant.seconds
    rw [seconds_instant]
    omega
  · show _ = instant.nanos / 10 ^ 6 * 10 ^ 6
    rw [nanos_instant, wholeNanos_ofInstant]
    split <;> omega

/-- Writing and reading loses what is finer than a millisecond and nothing else. -/
theorem read?_write {instant : Instant} (fourDigits : instant.HasFourDigitYear) :
    read? (write instant) = some instant.truncateToMillis :=
  read?_eq_some_iff.mpr ⟨ofInstant instant fourDigits, (text_ofInstant instant fourDigits).symm,
    (instant_ofInstant instant fourDigits).symm⟩

/-! ## The written form -/

/-- Whether a text has the shape of a pattern: a digit where the pattern has a digit, and the
pattern's own character elsewhere. -/
def hasShape : List Char → List Char → Bool
  | [], [] => true
  | p :: pattern, c :: text => (if p.isDigit then c.isDigit else c = p) && hasShape pattern text
  | _, _ => false

/-- The shape of a timestamp in universal time with milliseconds and a year of four digits. -/
def fullShape : List Char :=
  "0000-00-00T00:00:00.000Z".toList

theorem hasShape_digits {digits pattern text : List Char} (all : ∀ c ∈ digits, c.isDigit = true) :
    hasShape (List.replicate digits.length '0' ++ pattern) (digits ++ text) =
      hasShape pattern text := by
  induction digits with
  | nil => rfl
  | cons c digits ih =>
    have first : c.isDigit = true := all c List.mem_cons_self
    rw [List.length_cons, List.replicate_succ, List.cons_append, List.cons_append, hasShape,
      ih fun d member => all d (List.mem_cons_of_mem c member), first]
    rfl

theorem hasShape_padded {width n : Nat} (positive : 0 < width) (fits : n < 10 ^ width)
    (pattern text : List Char) :
    hasShape (List.replicate width '0' ++ pattern) (Text.padded width n ++ text) =
      hasShape pattern text := by
  have digits : ∀ c ∈ Text.padded width n, c.isDigit = true :=
    fun c => Text.isDigit_of_mem_padded
  have shape : hasShape (List.replicate (Text.padded width n).length '0' ++ pattern)
      (Text.padded width n ++ text) = hasShape pattern text := hasShape_digits digits
  rw [Text.length_padded positive fits] at shape
  exact shape

theorem hasShape_cons_self {c : Char} (notDigit : c.isDigit = false) (pattern text : List Char) :
    hasShape (c :: pattern) (c :: text) = hasShape pattern text := by
  simp [hasShape, notDigit]

/-- The shape of a time of day with milliseconds, in universal time. -/
def timeShape : List Char :=
  List.replicate 2 '0' ++ ':' :: (List.replicate 2 '0' ++ ':' ::
    (List.replicate 2 '0' ++ '.' :: (List.replicate 3 '0' ++ ['Z'])))

theorem fullShape_eq :
    fullShape = List.replicate 4 '0' ++ '-' :: (List.replicate 2 '0' ++ '-' ::
      (List.replicate 2 '0' ++ 'T' :: timeShape)) := by
  decide

theorem hasShape_timeText (instant : Instant) :
    hasShape timeShape (timeText instant ++ ['Z']) = true := by
  have seconds := secondOfDay_lt instant
  have nanos := instant.nanos_lt
  unfold timeText timeShape
  simp only [List.append_assoc, List.cons_append]
  rw [hasShape_padded (by decide) (by omega), hasShape_cons_self (by decide),
    hasShape_padded (by decide) (by omega), hasShape_cons_self (by decide),
    hasShape_padded (by decide) (by omega), hasShape_cons_self (by decide),
    hasShape_padded (by decide) (by omega)]
  rfl

theorem hasShape_write {instant : Instant} (fourDigits : instant.HasFourDigitYear) :
    hasShape fullShape (write instant) = true := by
  have year : 0 ≤ (Date.ofNumber instant.day).year ∧ (Date.ofNumber instant.day).year ≤ 9999 :=
    fourDigits
  have months := (Date.ofNumber instant.day).month_bounds
  have days := (Date.ofNumber instant.day).day_bounds
  unfold write dateText yearText
  rw [if_pos year, fullShape_eq]
  simp only [List.append_assoc, List.cons_append]
  rw [hasShape_padded (by decide) (by omega), hasShape_cons_self (by decide),
    hasShape_padded (by decide) (by omega), hasShape_cons_self (by decide),
    hasShape_padded (by decide) (by omega), hasShape_cons_self (by decide)]
  exact hasShape_timeText instant

/-- An instant of a year without four digits has a sign in front of its year. -/
theorem write_of_not_fourDigits {instant : Instant} (other : ¬ instant.HasFourDigitYear) :
    ∃ sign rest, write instant = sign :: rest ∧ sign.isDigit = false := by
  have year : ¬ (0 ≤ (Date.ofNumber instant.day).year ∧ (Date.ofNumber instant.day).year ≤ 9999) :=
    other
  unfold write dateText yearText
  rw [if_neg year]
  refine ⟨_, _, rfl, ?_⟩
  split <;> rfl

/-- The written form has the full shape in the years of four digits and in no other. -/
theorem hasShape_write_iff (instant : Instant) :
    hasShape fullShape (write instant) = true ↔ instant.HasFourDigitYear := by
  refine ⟨fun shape => ?_, hasShape_write⟩
  by_cases fourDigits : instant.HasFourDigitYear
  · exact fourDigits
  · obtain ⟨sign, rest, written, notDigit⟩ := write_of_not_fourDigits fourDigits
    rw [written, fullShape_eq] at shape
    simp [hasShape, List.replicate, notDigit] at shape

theorem read?_write_eq_none {instant : Instant} (other : ¬ instant.HasFourDigitYear) :
    read? (write instant) = none := by
  obtain ⟨sign, rest, written, notDigit⟩ := write_of_not_fourDigits other
  have unread : Text.takeNumber? 4 (sign :: rest) = none := by
    simp [Text.takeNumber?, notDigit]
  unfold read? takeDate?
  rw [written, unread]
  rfl

end Timestamp

namespace Instant

theorem toList_text (instant : Instant) : instant.text.toList = Timestamp.write instant :=
  String.toList_ofList

/-! ## Whole milliseconds -/

/-- The part of an instant that is cut off is less than a millisecond. -/
theorem nanos_eq_truncateToMillis_add (instant : Instant) :
    ∃ finer < 10 ^ 6, instant.nanos = instant.truncateToMillis.nanos + finer :=
  ⟨instant.nanos % 10 ^ 6, Nat.mod_lt _ (by decide),
    (Nat.div_add_mod' instant.nanos (10 ^ 6)).symm⟩

theorem truncateToMillis_eq_self_iff {instant : Instant} :
    instant.truncateToMillis = instant ↔ 10 ^ 6 ∣ instant.nanos := by
  rw [Nat.dvd_iff_div_mul_eq]
  exact ⟨fun same => congrArg nanos same, fun whole => by
    unfold truncateToMillis
    congr 1⟩

/-- The written form does not show what is cut off. -/
theorem text_truncateToMillis (instant : Instant) : instant.truncateToMillis.text = instant.text := by
  have seconds : instant.truncateToMillis.nanos / 10 ^ 9 = instant.nanos / 10 ^ 9 := by
    show instant.nanos / 10 ^ 6 * 10 ^ 6 / 10 ^ 9 = _
    omega
  have millis : instant.truncateToMillis.nanos % 10 ^ 9 / 10 ^ 6 = instant.nanos % 10 ^ 9 / 10 ^ 6 := by
    show instant.nanos / 10 ^ 6 * 10 ^ 6 % 10 ^ 9 / 10 ^ 6 = _
    omega
  unfold text Timestamp.write Timestamp.timeText
  rw [seconds, millis]
  rfl

end Instant

end DocumentQuery
