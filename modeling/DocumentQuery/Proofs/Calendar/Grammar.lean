import DocumentQuery.Calendar.Timestamp
import DocumentQuery.Proofs.Calendar.Date
import DocumentQuery.Proofs.Text.Decimal

/-!
Which texts are dates and timestamps.

A `Timestamp` is a timestamp in its written parts, each within its bounds. It has one text and one
instant, and neither is said through the reader: the text is its parts in their order, and the
instant counts the days out. Reading accepts the texts of timestamps and no others, and gives their
instants (`Timestamp.read?_eq_some_iff`). `Date.read?_eq_some_iff` says the same of calendar dates.
-/

namespace DocumentQuery

/-! ## Timestamps in their parts -/

/-- An offset from universal time as it is written. -/
inductive Timestamp.Offset
  | zulu
  | shifted (behind : Bool) (hour : Fin 24) (minute : Fin 60)

namespace Timestamp.Offset

/-- `Z`, or a sign, hours and minutes. -/
def text : Offset → List Char
  | zulu => ['Z']
  | shifted behind hour minute =>
    (if behind then '-' else '+') :: (Text.padded 2 hour ++ ':' :: Text.padded 2 minute)

/-- The minutes that local time is ahead of universal time. -/
def minutes : Offset → Int
  | zulu => 0
  | shifted behind hour minute =>
    if behind then -(60 * hour.val + minute.val : Int) else 60 * hour.val + minute.val

/-- An offset is less than a day. -/
theorem minutes_lt (offset : Offset) : -1440 < offset.minutes ∧ offset.minutes < 1440 := by
  cases offset with
  | zulu => decide
  | shifted behind hour minute =>
    rw [minutes]
    split <;> omega

theorem text_eq_cons (offset : Offset) :
    ∃ c rest, offset.text = c :: rest ∧ c.isDigit = false ∧ c ≠ '.' := by
  rcases offset with _ | ⟨_ | _, hour, minute⟩
  · exact ⟨'Z', _, rfl, by decide⟩
  · exact ⟨'+', _, rfl, by decide⟩
  · exact ⟨'-', _, rfl, by decide⟩

end Timestamp.Offset

/-- A timestamp in its written parts. -/
structure Timestamp where
  date : Date
  fourDigits : 0 ≤ date.year ∧ date.year ≤ 9999
  hour : Fin 24
  minute : Fin 60
  /-- Second 60 is a leap second. -/
  second : Fin 61
  /-- The digits after the point; where there are none, there is no point. -/
  fraction : List Char
  digits : ∀ c ∈ fraction, c.isDigit = true
  offset : Timestamp.Offset

/-- The first instant of a date, the days counted out from 1970. -/
def Date.midnight (date : Date) : Instant :=
  .ofDay (date.dayCount - epoch.dayCount)

theorem Date.midnight_eq_ofDay_number {date : Date} (notBefore : 0 ≤ date.year) :
    date.midnight = .ofDay date.number := by
  rw [midnight, number_eq_dayCount_sub notBefore]

theorem Date.seconds_midnight {date : Date} (notBefore : 0 ≤ date.year) :
    date.midnight.seconds = date.number * 86400 := by
  rw [midnight_eq_ofDay_number notBefore]
  rfl

namespace Timestamp

/-- A fraction with its point. -/
def fractionText : List Char → List Char
  | [] => []
  | digits => '.' :: digits

theorem fractionText_of_ne_nil {fraction : List Char} (nonempty : fraction ≠ []) :
    fractionText fraction = '.' :: fraction := by
  cases fraction with
  | nil => exact absurd rfl nonempty
  | cons c fraction => rfl

/-- `YYYY-MM-DDTHH:MM:SS`, a fraction if there is one, and the offset. -/
def text (timestamp : Timestamp) : List Char :=
  dateText timestamp.date ++ 'T' :: (Text.padded 2 timestamp.hour ++
    ':' :: (Text.padded 2 timestamp.minute ++ ':' :: (Text.padded 2 timestamp.second ++
      (fractionText timestamp.fraction ++ timestamp.offset.text))))

/-- The whole nanoseconds in a fraction of a second. -/
def wholeNanos (fraction : List Char) : Nat :=
  Text.digitsValue fraction * 10 ^ 9 / 10 ^ fraction.length

theorem wholeNanos_lt {fraction : List Char} (digits : ∀ c ∈ fraction, c.isDigit = true) :
    wholeNanos fraction < 10 ^ 9 := by
  have small := Text.digitsValue_lt digits
  unfold wholeNanos
  rw [Nat.div_lt_iff_lt_mul (Nat.pow_pos (by decide)), Nat.mul_comm]
  exact Nat.mul_lt_mul_of_pos_left small (by decide)

/-- The local date and time less the offset. A leap second prolongs the second before it. -/
def instant (timestamp : Timestamp) : Instant where
  seconds := timestamp.date.midnight.seconds + timestamp.hour.val * 3600 +
    timestamp.minute.val * 60 + min timestamp.second.val 59 - timestamp.offset.minutes * 60
  nanos := wholeNanos timestamp.fraction + if timestamp.second.val = 60 then 10 ^ 9 else 0
  nanos_lt := by
    have small := wholeNanos_lt timestamp.digits
    split <;> omega
  leap := by
    have small := wholeNanos_lt timestamp.digits
    have midnight : timestamp.date.midnight.seconds =
      (timestamp.date.dayCount - Date.epoch.dayCount) * 86400 := rfl
    split <;> omega

theorem seconds_instant (timestamp : Timestamp) :
    timestamp.instant.seconds = timestamp.date.midnight.seconds + timestamp.hour.val * 3600 +
      timestamp.minute.val * 60 + min timestamp.second.val 59 - timestamp.offset.minutes * 60 := rfl

theorem nanos_instant (timestamp : Timestamp) :
    timestamp.instant.nanos =
      wholeNanos timestamp.fraction + if timestamp.second.val = 60 then 10 ^ 9 else 0 := rfl

/-! ## Parts that are read -/

theorem expect?_eq_some_iff {c : Char} {text rest : List Char} :
    expect? c text = some rest ↔ text = c :: rest := by
  cases text with
  | nil => simp [expect?]
  | cons d text =>
    rw [expect?]
    split <;> simp [*]

theorem expect?_cons (c : Char) (text : List Char) : expect? c (c :: text) = some text :=
  expect?_eq_some_iff.mpr rfl

theorem takeTwo?_padded {greatest n : Nat} (le : n ≤ greatest) (fits : n < 100)
    (rest : List Char) : takeTwo? greatest (Text.padded 2 n ++ rest) = some (n, rest) := by
  unfold takeTwo?
  rw [Text.takeNumber?_padded (by decide) fits]
  simp only [Option.bind_eq_bind, Option.bind_some, if_pos le]

theorem takeTwo?_eq_some_iff {greatest n : Nat} {text rest : List Char}
    (twoDigits : greatest < 100) :
    takeTwo? greatest text = some (n, rest) ↔ n ≤ greatest ∧ text = Text.padded 2 n ++ rest := by
  constructor
  · intro taken
    unfold takeTwo? at taken
    simp only [Option.bind_eq_bind, Option.bind_eq_some_iff, Prod.exists] at taken
    obtain ⟨number, after, read, kept⟩ := taken
    obtain ⟨_, written⟩ := (Text.takeNumber?_eq_some_iff_padded (by decide)).mp read
    split at kept
    · next le =>
      cases kept
      exact ⟨le, written⟩
    · cases kept
  · rintro ⟨le, rfl⟩
    exact takeTwo?_padded le (by omega) rest

theorem ofParts?_eq_some {year : Int} {month day : Nat} {date : Date}
    (made : Date.ofParts? year month day = some date) :
    date.year = year ∧ date.month = month ∧ date.day = day := by
  unfold Date.ofParts? at made
  split at made
  · cases made
    exact ⟨rfl, rfl, rfl⟩
  · cases made

theorem takeDate?_dateText {date : Date} (fourDigits : 0 ≤ date.year ∧ date.year ≤ 9999)
    (rest : List Char) : takeDate? (dateText date ++ rest) = some (date, rest) := by
  have months := date.month_bounds
  have days := date.day_bounds
  have year : ((date.year.toNat : Nat) : Int) = date.year := Int.toNat_of_nonneg fourDigits.1
  unfold takeDate? dateText yearText
  rw [if_pos fourDigits]
  simp only [List.append_assoc, List.cons_append]
  rw [Text.takeNumber?_padded (by decide) (by omega)]
  simp only [Option.bind_eq_bind, Option.bind_some, expect?_cons]
  rw [Text.takeNumber?_padded (by decide) (by omega)]
  simp only [Option.bind_some, expect?_cons]
  rw [Text.takeNumber?_padded (by decide) (by omega)]
  simp only [Option.bind_some, year, Date.ofParts?_self]

theorem takeDate?_eq_some_iff {text rest : List Char} {date : Date} :
    takeDate? text = some (date, rest) ↔
      (0 ≤ date.year ∧ date.year ≤ 9999) ∧ text = dateText date ++ rest := by
  constructor
  · intro taken
    unfold takeDate? at taken
    simp only [Option.bind_eq_bind, Option.bind_eq_some_iff, Option.some.injEq, Prod.mk.injEq,
      Prod.exists, expect?_eq_some_iff] at taken
    obtain ⟨year, _, years, _, rfl, month, _, months, _, rfl, day, _, days, made, valid, rfl, rfl⟩ :=
      taken
    obtain ⟨yearFits, rfl⟩ := (Text.takeNumber?_eq_some_iff_padded (by decide)).mp years
    obtain ⟨_, rfl⟩ := (Text.takeNumber?_eq_some_iff_padded (by decide)).mp months
    obtain ⟨_, rfl⟩ := (Text.takeNumber?_eq_some_iff_padded (by decide)).mp days
    obtain ⟨sameYear, rfl, rfl⟩ := ofParts?_eq_some valid
    have fourDigits : 0 ≤ made.year ∧ made.year ≤ 9999 := by omega
    have sameDigits : made.year.toNat = year := by omega
    refine ⟨fourDigits, ?_⟩
    simp only [dateText, yearText, if_pos fourDigits, sameDigits, List.append_assoc, List.cons_append]
  · rintro ⟨fourDigits, rfl⟩
    exact takeDate?_dateText fourDigits rest

/-- Cutting a fraction off after nine digits leaves the whole nanoseconds of it. -/
theorem fractionNanos_eq_wholeNanos {fraction : List Char}
    (digits : ∀ c ∈ fraction, c.isDigit = true) : fractionNanos fraction = wholeNanos fraction := by
  unfold fractionNanos wholeNanos
  -- Up to nine digits the value is scaled up; of more digits those after the ninth are a remainder.
  by_cases short : fraction.length ≤ 9
  · have power : 10 ^ 9 = 10 ^ (9 - fraction.length) * 10 ^ fraction.length := by
      rw [← Nat.pow_add]
      congr 1
      omega
    rw [List.take_of_length_le short, power, ← Nat.mul_assoc,
      Nat.mul_div_cancel _ (Nat.pow_pos (by decide))]
  · have later : (fraction.drop 9).length = fraction.length - 9 := List.length_drop
    have small : Text.digitsValue (fraction.drop 9) < 10 ^ (fraction.length - 9) := by
      rw [← later]
      exact Text.digitsValue_lt fun c member => digits c (List.mem_of_mem_drop member)
    have power : 10 ^ fraction.length = 10 ^ (fraction.length - 9) * 10 ^ 9 := by
      rw [← Nat.pow_add]
      congr 1
      omega
    have value := Text.digitsValue_append (fraction.take 9) (fraction.drop 9)
    rw [List.take_append_drop, later] at value
    rw [power, Nat.mul_div_mul_right _ _ (by decide), value,
      Nat.mul_add_div (Nat.pow_pos (by decide)), Nat.div_eq_of_lt small]
    simp only [Nat.add_zero]
    rw [Nat.sub_eq_zero_of_le (by omega), Nat.pow_zero, Nat.mul_one]

theorem takeFraction?_eq_some {text rest : List Char} {nanos : Nat}
    (taken : takeFraction? text = some (nanos, rest)) :
    ∃ fraction, (∀ c ∈ fraction, c.isDigit = true) ∧ text = fractionText fraction ++ rest ∧
      nanos = wholeNanos fraction := by
  unfold takeFraction? at taken
  split at taken
  · next text =>
    simp only at taken
    split at taken
    · cases taken
    · next nonempty =>
      have digits : ∀ c ∈ text.takeWhile Char.isDigit, c.isDigit = true :=
        List.all_eq_true.mp List.all_takeWhile
      simp only [Option.some.injEq, Prod.mk.injEq] at taken
      obtain ⟨rfl, rfl⟩ := taken
      refine ⟨text.takeWhile Char.isDigit, digits, ?_, fractionNanos_eq_wholeNanos digits⟩
      rw [fractionText_of_ne_nil (by simpa using nonempty), List.cons_append,
        List.takeWhile_append_dropWhile]
  · simp only [Option.some.injEq, Prod.mk.injEq] at taken
    obtain ⟨rfl, rfl⟩ := taken
    exact ⟨[], by simp, rfl, rfl⟩

/-- A fraction ends where something other than a digit follows. -/
theorem takeFraction?_fractionText {fraction : List Char} {c : Char} (rest : List Char)
    (digits : ∀ d ∈ fraction, d.isDigit = true) (notDigit : c.isDigit = false) (notPoint : c ≠ '.') :
    takeFraction? (fractionText fraction ++ c :: rest) = some (wholeNanos fraction, c :: rest) := by
  cases fraction with
  | nil =>
    unfold takeFraction?
    split
    · next same =>
      obtain ⟨same, _⟩ := List.cons.inj same
      exact absurd same notPoint
    · rfl
  | cons d fraction =>
    have taken : (d :: fraction ++ c :: rest).takeWhile Char.isDigit = d :: fraction := by
      rw [List.takeWhile_append_of_pos digits, List.takeWhile_cons_of_neg (by simp [notDigit]),
        List.append_nil]
    have dropped : (d :: fraction ++ c :: rest).dropWhile Char.isDigit = c :: rest := by
      rw [List.dropWhile_append_of_pos digits, List.dropWhile_cons_of_neg (by simp [notDigit])]
    rw [← fractionNanos_eq_wholeNanos digits]
    show takeFraction? ('.' :: (d :: fraction ++ c :: rest)) = _
    rw [takeFraction?, taken, dropped]
    rfl

theorem hoursAndMinutes?_eq_some_iff {text : List Char} {offset : Int} :
    readOffset?.hoursAndMinutes? text = some offset ↔
      ∃ (hour : Fin 24) (minute : Fin 60),
        text = Text.padded 2 hour ++ ':' :: Text.padded 2 minute ∧
          offset = 60 * hour.val + minute.val := by
  unfold readOffset?.hoursAndMinutes?
  simp only [Option.bind_eq_bind, Option.bind_eq_some_iff, Prod.exists, expect?_eq_some_iff,
    takeTwo?_eq_some_iff (show 23 < 100 by decide), takeTwo?_eq_some_iff (show 59 < 100 by decide)]
  constructor
  · rintro ⟨hour, _, ⟨hourLe, rfl⟩, _, rfl, minute, rest, ⟨minuteLe, rfl⟩, whole⟩
    split at whole
    · next empty =>
      cases whole
      rw [List.isEmpty_iff.mp empty, List.append_nil]
      exact ⟨⟨hour, by omega⟩, ⟨minute, by omega⟩, rfl, rfl⟩
    · cases whole
  · rintro ⟨hour, minute, rfl, rfl⟩
    exact ⟨hour, _, ⟨by omega, rfl⟩, _, rfl, minute, [], ⟨by omega, by simp⟩, rfl⟩

theorem readOffset?_eq_some_iff {text : List Char} {minutes : Int} :
    readOffset? text = some minutes ↔
      ∃ offset : Offset, text = offset.text ∧ minutes = offset.minutes := by
  constructor
  · intro read
    unfold readOffset? at read
    split at read
    · cases read
      exact ⟨.zulu, rfl, rfl⟩
    · obtain ⟨hour, minute, rfl, rfl⟩ := hoursAndMinutes?_eq_some_iff.mp read
      exact ⟨.shifted false hour minute, rfl, rfl⟩
    · obtain ⟨ahead, behind, rfl⟩ := Option.map_eq_some_iff.mp read
      obtain ⟨hour, minute, rfl, rfl⟩ := hoursAndMinutes?_eq_some_iff.mp behind
      exact ⟨.shifted true hour minute, rfl, rfl⟩
    · cases read
  · rintro ⟨offset, rfl, rfl⟩
    rcases offset with _ | ⟨_ | _, hour, minute⟩
    · rfl
    · exact hoursAndMinutes?_eq_some_iff.mpr ⟨hour, minute, rfl, rfl⟩
    · exact Option.map_eq_some_iff.mpr
        ⟨_, hoursAndMinutes?_eq_some_iff.mpr ⟨hour, minute, rfl, rfl⟩, rfl⟩

/-! ## The whole timestamp -/

/-- The time of day of a timestamp. -/
def time (timestamp : Timestamp) : TimeOfDay :=
  ⟨timestamp.hour, timestamp.minute, timestamp.second, wholeNanos timestamp.fraction⟩

theorem takeTime?_text (timestamp : Timestamp) :
    takeTime? (Text.padded 2 timestamp.hour ++ ':' :: (Text.padded 2 timestamp.minute ++
      ':' :: (Text.padded 2 timestamp.second ++
        (fractionText timestamp.fraction ++ timestamp.offset.text)))) =
      some (timestamp.time, timestamp.offset.text) := by
  obtain ⟨c, rest, offset, notDigit, notPoint⟩ := timestamp.offset.text_eq_cons
  unfold takeTime?
  rw [takeTwo?_padded (by omega) (by omega)]
  simp only [Option.bind_eq_bind, Option.bind_some, expect?_cons]
  rw [takeTwo?_padded (by omega) (by omega)]
  simp only [Option.bind_some, expect?_cons]
  rw [takeTwo?_padded (by omega) (by omega)]
  simp only [Option.bind_some]
  rw [offset, takeFraction?_fractionText rest timestamp.digits notDigit notPoint]
  rfl

theorem ofParts?_of_eq {instant : Instant} {seconds : Int} {nanos : Nat}
    (sameSeconds : seconds = instant.seconds) (sameNanos : nanos = instant.nanos) :
    Instant.ofParts? seconds nanos = some instant := by
  subst sameSeconds
  subst sameNanos
  unfold Instant.ofParts?
  rw [dif_pos ⟨instant.nanos_lt, instant.leap⟩]

/-- Every timestamp has an instant, also with a leap second. -/
theorem instant?_time (timestamp : Timestamp) :
    instant? timestamp.date timestamp.time timestamp.offset.minutes = some timestamp.instant := by
  have midnight := Date.seconds_midnight timestamp.fourDigits.1
  unfold instant? time
  simp only
  by_cases leap : timestamp.second.val = 60
  · rw [if_pos leap]
    apply ofParts?_of_eq
    · rw [seconds_instant]
      omega
    · rw [nanos_instant, if_pos leap]
      omega
  · rw [if_neg leap]
    apply ofParts?_of_eq
    · rw [seconds_instant]
      omega
    · rw [nanos_instant, if_neg leap]
      omega

/-- The text of a timestamp and no other text is read, and as its instant. -/
theorem read?_eq_some_iff {text : List Char} {instant : Instant} :
    read? text = some instant ↔
      ∃ timestamp : Timestamp, text = timestamp.text ∧ instant = timestamp.instant := by
  constructor
  · intro read
    unfold read? takeTime? at read
    simp only [Option.bind_eq_bind, Option.bind_eq_some_iff, Option.some.injEq, Prod.mk.injEq,
      Prod.exists, expect?_eq_some_iff, takeDate?_eq_some_iff, readOffset?_eq_some_iff,
      takeTwo?_eq_some_iff (show 23 < 100 by decide), takeTwo?_eq_some_iff (show 59 < 100 by decide),
      takeTwo?_eq_some_iff (show 60 < 100 by decide)] at read
    obtain ⟨date, _, ⟨fourDigits, rfl⟩, _, rfl, time, _,
      ⟨hour, _, ⟨hourLe, rfl⟩, _, rfl, minute, _, ⟨minuteLe, rfl⟩, _, rfl, second, _,
        ⟨secondLe, rfl⟩, nanos, _, fractions, rfl, rfl⟩, _, ⟨offset, rfl, rfl⟩, made⟩ := read
    obtain ⟨fraction, digits, rfl, rfl⟩ := takeFraction?_eq_some fractions
    let timestamp : Timestamp := ⟨date, fourDigits, ⟨hour, by omega⟩, ⟨minute, by omega⟩,
      ⟨second, by omega⟩, fraction, digits, offset⟩
    have same : instant? date timestamp.time offset.minutes = some timestamp.instant :=
      instant?_time timestamp
    exact ⟨timestamp, rfl, Option.some.inj (made.symm.trans same)⟩
  · rintro ⟨timestamp, rfl, rfl⟩
    unfold read? Timestamp.text
    rw [takeDate?_dateText timestamp.fourDigits]
    simp only [Option.bind_eq_bind, Option.bind_some, expect?_cons, takeTime?_text]
    rw [readOffset?_eq_some_iff.mpr ⟨timestamp.offset, rfl, rfl⟩]
    exact instant?_time timestamp

end Timestamp

/-- The text of a date of the years 0 to 9999 and no other text is read as a date. -/
theorem Date.read?_eq_some_iff {text : List Char} {date : Date} :
    read? text = some date ↔
      (0 ≤ date.year ∧ date.year ≤ 9999) ∧ text = Timestamp.dateText date := by
  unfold read?
  simp only [Option.bind_eq_bind, Option.bind_eq_some_iff, Prod.exists,
    Timestamp.takeDate?_eq_some_iff]
  constructor
  · rintro ⟨taken, rest, ⟨fourDigits, rfl⟩, whole⟩
    split at whole
    · next empty =>
      cases whole
      rw [List.isEmpty_iff.mp empty, List.append_nil]
      exact ⟨fourDigits, rfl⟩
    · cases whole
  · rintro ⟨fourDigits, rfl⟩
    exact ⟨date, [], ⟨fourDigits, (List.append_nil _).symm⟩, rfl⟩

end DocumentQuery
