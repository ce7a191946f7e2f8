import DocumentQuery.Proofs.Calendar.Bounds
import DocumentQuery.Proofs.Filter.Blocks

/-!
The dates in a filter.

Every date in a filter comes from a text of a parameter that spells an instant: it is the instant
or, for an operator that spans days, one of the two ends of its day (`Filter.dates_ofParameters`).
Written out, it has the full form with a year of four digits, and is read again, unless its year is
the one before year 0 or the one after year 9999. An offset takes an instant there, and so does the
end of the last day of year 9999.
-/

namespace DocumentQuery

/-! ## Dates in operands -/

/-- The texts of a raw value that are looked at for dates, given the transform of the operator. -/
def RawValue.readTexts (transform : Option Transform) : RawValue → List String
  | .null => []
  | .single text =>
    match transform with
    | some .presence => []
    | some .inPieces => Text.pieces ',' text
    | _ => [text]
  | .multiple texts => if transform = some .presence then [] else texts

/-- The instants that the texts of a raw value spell, in the order of the texts. -/
def RawValue.instants (transform : Option Transform) (value : RawValue) : List Instant :=
  (value.readTexts transform).flatMap fun text => (Instant.ofText? text).toList

theorem RawValue.instants_multiple {transform : Option Transform} (scalar : transform ≠ some .inPieces)
    (texts : List String) :
    instants transform (.multiple texts) =
      texts.flatMap fun text => instants transform (.single text) := by
  unfold instants readTexts
  rcases transform with _ | _ | _ | _
  · simp
  · exact absurd rfl scalar
  · simp
  · simp

namespace Operand

mutual

/-- The dates in an operand, in their order. -/
def dates : Operand → List Instant
  | .date instant => [instant]
  | .list items => listDates items
  | _ => []

/-- The dates in a list of operands. -/
def listDates : List Operand → List Instant
  | [] => []
  | item :: items => dates item ++ listDates items

end

theorem listDates_eq_flatMap (items : List Operand) : listDates items = items.flatMap dates := by
  induction items with
  | nil => rfl
  | cons item items ih => rw [listDates, ih, List.flatMap_cons]

theorem dates_ofText (text : String) : (ofText text).dates = (Instant.ofText? text).toList := by
  obtain ⟨nullInstant, trueInstant, falseInstant⟩ := instantOfText?_literal
  rcases ofText_cases text with ⟨rfl, read⟩ | ⟨rfl, read⟩ | ⟨rfl, read⟩ |
    ⟨found, spelled, read⟩ | ⟨spelled, read⟩
  · rw [read, nullInstant]
    rfl
  · rw [read, trueInstant]
    rfl
  · rw [read, falseInstant]
    rfl
  · rw [read, spelled]
    rfl
  · rw [read, spelled]
    rfl

theorem dates_interpret_texts (texts : List String) :
    (interpret (.list (texts.map .text))).dates =
      texts.flatMap fun text => (Instant.ofText? text).toList := by
  rw [interpret_texts, dates, listDates_eq_flatMap, List.flatMap_map]
  congr 1
  funext text
  exact dates_ofText text

/-- A whole number hides no date. -/
theorem dates_wholeNumber_text (text : String) :
    (typed (some .wholeNumber) (.text text)).dates = (Instant.ofText? text).toList := by
  show (interpret (wholeNumber (.text text))).dates = _
  rw [wholeNumber]
  cases spelled : Instant.ofText? text with
  | some instant =>
    rw [wordOfText?_of_instant spelled]
    show (ofText text).dates = _
    rw [dates_ofText, spelled]
  | none =>
    split
    · rfl
    · show (ofText text).dates = _
      rw [dates_ofText, spelled]

theorem dates_typed_text (transform : Option Transform) (text : String) :
    (typed transform (.text text)).dates = RawValue.instants transform (.single text) := by
  unfold RawValue.instants RawValue.readTexts
  rcases transform with _ | _ | _ | _
  · rw [List.flatMap_singleton]
    exact dates_ofText text
  · exact dates_interpret_texts _
  · rfl
  · rw [List.flatMap_singleton]
    exact dates_wholeNumber_text text

/-- The dates of a typed operand are the instants that its texts spell. -/
theorem dates_typed (transform : Option Transform) (value : RawValue) :
    (typed transform (ofRaw value)).dates = value.instants transform := by
  cases value with
  | null => rcases transform with _ | _ | _ | _ <;> rfl
  | single text => exact dates_typed_text transform text
  | multiple texts =>
    by_cases cut : transform = some .inPieces
    · subst cut
      exact dates_interpret_texts texts
    · rw [ofRaw, typed_list cut, dates, listDates_eq_flatMap, List.map_map, List.flatMap_map,
        RawValue.instants_multiple cut]
      congr 1
      funext text
      exact dates_typed_text transform text

/-- Every date of a typed operand has a day after its own. -/
theorem dayBounds?_of_mem_dates {transform : Option Transform} {value : RawValue}
    {instant : Instant} (member : instant ∈ (typed transform (ofRaw value)).dates) :
    instant.dayBounds? = some (instant.startOfDay, .ofDay (instant.day + 1)) := by
  rw [dates_typed] at member
  obtain ⟨_, _, spelled⟩ := List.mem_flatMap.mp member
  exact Instant.dayBounds?_of_ofText? (Option.mem_toList.mp spelled)

end Operand

/-! ## Written dates -/

namespace Instant

/-- Whether a date operand is written as a timestamp in universal time with milliseconds and a year
of four digits, which is taken for a date again. -/
def IsWrittenInFull (instant : Instant) : Prop :=
  ∃ text, (Operand.date instant).toJson = .string text ∧
    Timestamp.hasShape Timestamp.fullShape text.toList = true ∧
    Recogniser.timestamp.accept text = some (.date instant.truncateToMillis)

theorem accept_text {instant : Instant} (fourDigits : instant.HasFourDigitYear) :
    Recogniser.timestamp.accept instant.text = some (.date instant.truncateToMillis) := by
  unfold Recogniser.timestamp
  simp only [toList_text, Timestamp.read?_write fourDigits, Option.map_some]

theorem accept_text_eq_none {instant : Instant} (other : ¬ instant.HasFourDigitYear) :
    Recogniser.timestamp.accept instant.text = none := by
  unfold Recogniser.timestamp
  simp only [toList_text, Timestamp.read?_write_eq_none other, Option.map_none]

theorem isWrittenInFull_iff {instant : Instant} :
    instant.IsWrittenInFull ↔ instant.HasFourDigitYear := by
  constructor
  · rintro ⟨text, json, shape, _⟩
    have same : instant.text = text := Json.string.inj json
    rw [← same, toList_text] at shape
    exact (Timestamp.hasShape_write_iff instant).mp shape
  · intro fourDigits
    refine ⟨instant.text, rfl, ?_, accept_text fourDigits⟩
    rw [toList_text]
    exact (Timestamp.hasShape_write_iff instant).mpr fourDigits

end Instant

/-! ## Dates in clauses -/

/-- The dates in a clause. -/
def Clause.dates (clause : Clause) : List Instant :=
  clause.predicate.flatMap fun entry => entry.2.dates

/-- The dates in a filter. -/
def Filter.dates (filter : Filter) : List Instant :=
  filter.clauses.flatMap Clause.dates

namespace Operator

/-- The dates that an operator makes of an instant. -/
def datesOf (operator : Operator) (instant : Instant) : List Instant :=
  if operator.spansDay then [instant.startOfDay, .ofDay (instant.day + 1)] else [instant]

theorem transform?_of_spansDay {operator : Operator} (spans : operator.spansDay = true) :
    operator.transform? = none := by
  cases operator <;> first | rfl | cases spans

theorem dates_plainClause (operator : Operator) (field : String) (operand : Operand) :
    (operator.plainClause field operand).dates = operand.dates := by
  have options : ∀ option ∈ operator.options.map fun option => (option.1, Operand.text option.2),
      option.2.dates = [] := by
    intro option member
    obtain ⟨_, _, rfl⟩ := List.mem_map.mp member
    rfl
  unfold plainClause Clause.dates
  rw [List.flatMap_cons, List.flatMap_eq_nil_iff.mpr options, List.append_nil]

theorem dates_clause_of_not_spansDay {operator : Operator} (one : operator.spansDay = false)
    (field : String) (operand : Operand) :
    (operator.clause field operand).dates = operand.dates.flatMap operator.datesOf := by
  have same : operator.datesOf = fun instant => [instant] := by
    funext instant
    unfold datesOf
    rw [one]
    rfl
  rw [clause_of_not_spansDay one, dates_plainClause, same, List.flatMap_singleton']

theorem dates_clause_of_spansDay {operator : Operator} (spans : operator.spansDay = true)
    (field : String) {operand : Operand} (scalar : ∀ items, operand ≠ .list items)
    (bounded : ∀ instant ∈ operand.dates,
      instant.dayBounds? = some (instant.startOfDay, .ofDay (instant.day + 1))) :
    (operator.clause field operand).dates = operand.dates.flatMap operator.datesOf := by
  unfold clause datesOf
  rw [spans]
  cases operand with
  | date instant =>
    have both := bounded instant (List.mem_singleton.mpr rfl)
    simp only [Operand.instant?, Option.bind_some, both]
    rfl
  | list items => exact absurd rfl (scalar items)
  | null => exact dates_plainClause operator field _
  | bool value => exact dates_plainClause operator field _
  | int value => exact dates_plainClause operator field _
  | text value => exact dates_plainClause operator field _

end Operator

/-! ## Dates in filters -/

namespace Filter

/-- The dates that a parameter gives. -/
def parameterDates (key : String) (value : RawValue) : List Instant :=
  let operator := (FieldKey.ofString key).operator
  (value.instants operator.transform?).flatMap operator.datesOf

/-- A parameter that gives one clause gives its dates there. -/
theorem dates_clauseOf {key : String} {value : RawValue}
    (one : (FieldKey.ofString key).operator = .within ∨ ∀ texts, value ≠ .multiple texts) :
    (clauseOf key value).dates = parameterDates key value := by
  unfold clauseOf parameterDates
  cases spans : (FieldKey.ofString key).operator.spansDay with
  | false =>
    simp only
    rw [Operator.dates_clause_of_not_spansDay spans, Operand.dates_typed]
  | true =>
    have plain := Operator.transform?_of_spansDay spans
    simp only [plain]
    rw [Operator.dates_clause_of_spansDay spans, Operand.dates_typed]
    · rcases one with within | scalar
      · rw [within] at spans
        cases spans
      · cases value with
        | null => exact Operand.typed_null_ne_list none
        | single text => exact Operand.ofText_ne_list text
        | multiple texts => exact absurd rfl (scalar texts)
    · exact fun _ => Operand.dayBounds?_of_mem_dates

theorem parameterDates_multiple {key : String} (ne : (FieldKey.ofString key).operator ≠ .within)
    (texts : List String) :
    parameterDates key (.multiple texts) =
      texts.flatMap fun text => parameterDates key (.single text) := by
  unfold parameterDates
  simp only
  rw [RawValue.instants_multiple (Operator.transform?_ne_inPieces ne), List.flatMap_assoc]

/-- The dates of a block are those of its parameter, however many clauses it has. -/
theorem dates_block (key : String) (value : RawValue) :
    (block key value).flatMap Clause.dates = parameterDates key value := by
  by_cases within : (FieldKey.ofString key).operator = .within
  · rw [block_within within, List.flatMap_singleton, dates_clauseOf (Or.inl within)]
  cases value with
  | null =>
    rw [block_null, List.flatMap_singleton]
    exact dates_clauseOf (Or.inr fun _ => RawValue.noConfusion)
  | single text =>
    rw [block_single, List.flatMap_singleton]
    exact dates_clauseOf (Or.inr fun _ => RawValue.noConfusion)
  | multiple texts =>
    rw [block_multiple within, List.flatMap_map, parameterDates_multiple within]
    congr 1
    funext text
    exact dates_clauseOf (Or.inr fun _ => RawValue.noConfusion)

/-- The dates of a filter are those of its parameters, in their order. -/
theorem dates_ofParameters (settings : Settings) (parameters : Parameters) :
    (ofParameters settings parameters).dates =
      (unreserved settings parameters).flatMap fun entry => parameterDates entry.1 entry.2 := by
  unfold dates
  rw [clauses_eq_flatMap, List.flatMap_assoc]
  congr 1
  funext entry
  exact dates_block entry.1 entry.2

theorem mem_dates {settings : Settings} {parameters : Parameters} {instant : Instant} :
    instant ∈ (ofParameters settings parameters).dates ↔
      ∃ entry ∈ unreserved settings parameters, instant ∈ parameterDates entry.1 entry.2 := by
  rw [dates_ofParameters, List.mem_flatMap]

/-- The ends of a day have years of four digits when the day has and is not the last of them. -/
theorem datesOf_fourDigits {operator : Operator} {instant : Instant} :
    (∀ date ∈ operator.datesOf instant, date.HasFourDigitYear) ↔
      instant.HasFourDigitYear ∧ (operator.spansDay = true → instant.day + 1 ≠ yearStart 10000) := by
  unfold Operator.datesOf
  cases spans : operator.spansDay with
  | false => simp
  | true =>
    simp only [if_true, List.forall_mem_cons, List.not_mem_nil, Instant.hasFourDigitYear_iff,
      Instant.startOfDay, Instant.day_ofDay]
    constructor
    · rintro ⟨first, last, _⟩
      exact ⟨first, fun _ => by omega⟩
    · rintro ⟨first, last⟩
      have before := last trivial
      exact ⟨first, by omega, fun _ member => absurd member id⟩

/-- No date of a filter is further away from the years 0 to 9999 than the years next to them. -/
theorem year_of_mem_dates {settings : Settings} {parameters : Parameters} {instant : Instant}
    (member : instant ∈ (ofParameters settings parameters).dates) :
    -1 ≤ instant.year ∧ instant.year ≤ 10000 := by
  obtain ⟨entry, _, dated⟩ := mem_dates.mp member
  obtain ⟨source, spelled, made⟩ := List.mem_flatMap.mp dated
  obtain ⟨text, _, read⟩ := List.mem_flatMap.mp spelled
  have days := Instant.day_ofText? (Option.mem_toList.mp read)
  have near : yearStart 0 - 1 ≤ instant.day ∧ instant.day ≤ yearStart 10000 + 1 := by
    unfold Operator.datesOf at made
    split at made
    · simp only [List.mem_cons, List.not_mem_nil, or_false] at made
      rcases made with rfl | rfl
      · rw [Instant.startOfDay, Instant.day_ofDay]
        omega
      · rw [Instant.day_ofDay]
        omega
    · rw [List.mem_singleton.mp made]
      omega
  have first : yearStart (-1) ≤ yearStart 0 - 1 := by decide
  have last : yearStart 10000 + 1 < yearStart 10001 := by decide
  have lower : -1 ≤ instant.year := le_yearOf_iff.mpr (by omega)
  have upper : instant.year < 10001 := yearOf_lt_iff.mpr (by omega)
  omega

/-- All dates of a filter are written in full, with a year of four digits, and read again to the
millisecond, when every instant that a parameter spells has such a year in universal time, and for
an operator that spans days is not on the last day of year 9999. Any other date has year -1 or year
10000, has a sign in front and is not read again. -/
theorem dates_written_in_full (settings : Settings) (parameters : Parameters) :
    ((∀ instant ∈ (ofParameters settings parameters).dates, instant.IsWrittenInFull) ↔
        ∀ entry ∈ unreserved settings parameters,
          ∀ instant ∈ entry.2.instants (FieldKey.ofString entry.1).operator.transform?,
            instant.HasFourDigitYear ∧
              ((FieldKey.ofString entry.1).operator.spansDay = true →
                instant.day + 1 ≠ yearStart 10000)) ∧
      ∀ instant ∈ (ofParameters settings parameters).dates, ¬ instant.IsWrittenInFull →
        (instant.year = -1 ∨ instant.year = 10000) ∧
          (∃ sign rest, instant.text.toList = sign :: rest ∧ sign.isDigit = false) ∧
          Recogniser.timestamp.accept instant.text = none := by
  constructor
  · constructor
    · intro full entry member instant spelled
      rw [← datesOf_fourDigits]
      intro date made
      have dated : date ∈ parameterDates entry.1 entry.2 :=
        List.mem_flatMap.mpr ⟨instant, spelled, made⟩
      exact Instant.isWrittenInFull_iff.mp (full date (mem_dates.mpr ⟨entry, member, dated⟩))
    · intro fourDigits date member
      obtain ⟨entry, unreserved, dated⟩ := mem_dates.mp member
      obtain ⟨instant, spelled, made⟩ := List.mem_flatMap.mp dated
      have all := datesOf_fourDigits.mpr (fourDigits entry unreserved instant spelled)
      exact Instant.isWrittenInFull_iff.mpr (all date made)
  · intro instant member other
    rw [Instant.isWrittenInFull_iff] at other
    have years := year_of_mem_dates member
    refine ⟨?_, ?_, ?_⟩
    · unfold Instant.HasFourDigitYear at other
      omega
    · obtain ⟨sign, rest, written, notDigit⟩ := Timestamp.write_of_not_fourDigits other
      exact ⟨sign, rest, by rw [Instant.toList_text, written], notDigit⟩
    · exact Instant.accept_text_eq_none other

example :
    (ofParameters .builtin (.ofPairs [("at", "9999-12-31T23:59:59-01:00"),
      ("from", "0000-01-01T00:00:00+00:01"), ("day.eqDate", "9999-12-31")])).dates.map Instant.text =
      ["+10000-01-01T00:59:59.000Z", "-0001-12-31T23:59:00.000Z", "9999-12-31T00:00:00.000Z",
        "+10000-01-01T00:00:00.000Z"] := by
  decide +kernel

end Filter

end DocumentQuery