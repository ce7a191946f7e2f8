import DocumentQuery.Proofs.Filter.Dates
import DocumentQuery.Proofs.Json.ReadBack
import DocumentQuery.Proofs.Operand.Dates

/-!
A filter recovered from its text.

The JSON form of an operand does not tell a date from a text. But a text that spelled a date would
have become one, so a reader who looks at every text once more has the typed filter back, with its
dates to the millisecond (`Filter.read?_compact`). It is enough that the dates have years of four
digits.
-/

namespace DocumentQuery

/-! ## Whole milliseconds -/

namespace Operand

mutual

/-- The operand with its dates cut off to milliseconds. -/
def toMillis : Operand → Operand
  | .date instant => .date instant.truncateToMillis
  | .list items => .list (listToMillis items)
  | operand => operand

/-- `toMillis` on each item. -/
def listToMillis : List Operand → List Operand
  | [] => []
  | item :: items => toMillis item :: listToMillis items

end

end Operand

/-- The clause with its dates cut off to milliseconds. -/
def Clause.toMillis (clause : Clause) : Clause where
  field := clause.field
  predicate := clause.predicate.map fun entry => (entry.1, entry.2.toMillis)

/-- The filter with its dates cut off to milliseconds. -/
def Filter.toMillis : Filter → Filter
  | .empty => .empty
  | .group connective first rest => .group connective first.toMillis (rest.map Clause.toMillis)

/-! ## A reader -/

namespace Operand

mutual

/-- The operand of a JSON value, every text in it replaced by what it spells. -/
def ofJson? : Json → Option Operand
  | .null => some .null
  | .bool value => some (.bool value)
  | .integer value => some (.int value)
  | .float _ => none
  | .string value => some (ofText value)
  | .array items => (listOfJson? items).map .list
  | .object _ => none

/-- The operands of a list of JSON values. -/
def listOfJson? : List Json → Option (List Operand)
  | [] => some []
  | item :: items => do
    let operand ← ofJson? item
    let operands ← listOfJson? items
    some (operand :: operands)

end

end Operand

/-- The clause of a JSON value. -/
def Clause.ofJson? : Json → Option Clause
  | .object [(field, .object members)] => do
    let predicate ← members.mapM fun member => (Operand.ofJson? member.2).map fun operand =>
      (member.1, operand)
    some ⟨field, predicate⟩
  | _ => none

/-- The connective with a symbol. -/
def Connective.ofSymbol? (symbol : String) : Option Connective :=
  [Connective.all, .any].find? fun connective => connective.symbol = symbol

/-- The filter of a JSON value. -/
def Filter.ofJson? : Json → Option Filter
  | .object [] => some .empty
  | .object [(symbol, .array items)] => do
    let connective ← Connective.ofSymbol? symbol
    let clauses ← items.mapM Clause.ofJson?
    some (ofClauses connective clauses)
  | _ => none

/-- The filter of a text. -/
def Filter.read? (text : String) : Option Filter := do
  let (value, rest) ← Json.take? text.toList
  if rest.isEmpty then ofJson? value else none

/-! ## Settled operands -/

/-- What holds of the operands of a filter: a second look finds nothing new in them, and their JSON
values are read back. -/
structure Operand.IsSettled (operand : Operand) : Prop where
  interpreted : operand.interpret = operand
  plain : ∀ depth, Json.IsPlain (depth + 1) operand.toJson

/-- What holds of the clauses of a filter. -/
structure Clause.IsSettled (clause : Clause) : Prop where
  symbols : (clause.predicate.map Prod.fst).Nodup
  operands : ∀ entry ∈ clause.predicate, entry.2.IsSettled

namespace Operand

theorem plain_ofText (depth : Nat) (text : String) : Json.IsPlain depth (ofText text).toJson := by
  rcases ofText_cases text with ⟨_, read⟩ | ⟨_, read⟩ | ⟨_, read⟩ | ⟨_, _, read⟩ | ⟨_, read⟩ <;>
    · rw [read, toJson, Json.IsPlain]
      trivial

theorem plain_typed_text {transform : Option Transform} (scalar : transform ≠ some .inPieces)
    (depth : Nat) (text : String) : Json.IsPlain depth (typed transform (.text text)).toJson := by
  rcases transform with _ | _ | _ | _
  · exact plain_ofText depth text
  · exact absurd rfl scalar
  · show Json.IsPlain depth (.bool _)
    rw [Json.IsPlain]
    trivial
  · show Json.IsPlain depth (interpret (wholeNumber (.text text))).toJson
    rw [wholeNumber]
    split
    · next number spelled =>
      have fits := (wordOfText?_eq_some_iff.mp spelled).2
      show Json.IsPlain depth (.integer number)
      rw [Json.IsPlain]
      omega
    · exact plain_ofText depth text

theorem plain_list {items : List Operand} (depth : Nat)
    (all : ∀ item ∈ items, Json.IsPlain depth item.toJson) :
    Json.IsPlain (depth + 1) (list items).toJson := by
  rw [toJson, listToJson_eq_map]
  apply Json.isPlain_array
  intro json member
  obtain ⟨item, inside, rfl⟩ := List.mem_map.mp member
  exact all item inside

theorem plain_interpret_texts (depth : Nat) (texts : List String) :
    Json.IsPlain (depth + 1) (interpret (.list (texts.map .text))).toJson := by
  rw [interpret_texts]
  apply plain_list
  intro item member
  obtain ⟨text, _, rfl⟩ := List.mem_map.mp member
  exact plain_ofText depth text

/-- The typed operand of a raw value is settled. -/
theorem isSettled_typed (transform : Option Transform) (value : RawValue) :
    (typed transform (ofRaw value)).IsSettled := by
  refine ⟨interpret_typed transform (ofRaw value), fun depth => ?_⟩
  cases value with
  | null => rcases transform with _ | _ | _ | _ <;> trivial
  | single text =>
    by_cases cut : transform = some .inPieces
    · subst cut
      exact plain_interpret_texts depth _
    · exact plain_typed_text cut (depth + 1) text
  | multiple texts =>
    by_cases cut : transform = some .inPieces
    · subst cut
      exact plain_interpret_texts depth texts
    · rw [ofRaw, typed_list cut, List.map_map]
      apply plain_list
      intro item member
      obtain ⟨text, _, rfl⟩ := List.mem_map.mp member
      exact plain_typed_text cut depth text

theorem isSettled_date (instant : Instant) : (date instant).IsSettled := by
  refine ⟨rfl, fun depth => ?_⟩
  rw [toJson, Json.IsPlain]
  trivial

end Operand

namespace Operator

theorem eq_of_mem_options {operator : Operator} {option : String × String}
    (listed : option ∈ operator.options) : option = ("$options", "i") := by
  cases operator with
  | contains => exact List.mem_singleton.mp listed
  | _ => cases listed

theorem isSettled_plainClause (operator : Operator) (field : String) {operand : Operand}
    (settled : operand.IsSettled) : (operator.plainClause field operand).IsSettled := by
  constructor
  · cases operator <;> simp [plainClause, symbol, options]
  · intro entry member
    rcases List.mem_cons.mp member with rfl | fixed
    · exact settled
    · obtain ⟨option, listed, rfl⟩ := List.mem_map.mp fixed
      rw [eq_of_mem_options listed]
      exact ⟨by decide, fun depth => by trivial⟩

theorem isSettled_rangeClause (field : String) (start stop : Instant) :
    (rangeClause field start stop).IsSettled := by
  constructor
  · simp [rangeClause]
  · intro entry member
    simp only [rangeClause, List.mem_cons, List.not_mem_nil, or_false] at member
    rcases member with rfl | rfl
    · exact Operand.isSettled_date start
    · exact Operand.isSettled_date stop

theorem isSettled_clause (operator : Operator) (field : String) {operand : Operand}
    (settled : operand.IsSettled) : (operator.clause field operand).IsSettled := by
  unfold clause
  split
  · exact isSettled_rangeClause field _ _
  · exact isSettled_plainClause operator field settled

end Operator

namespace Filter

theorem isSettled_of_mem_block {key : String} {value : RawValue} {clause : Clause}
    (member : clause ∈ block key value) : clause.IsSettled := by
  obtain ⟨raw, _, rfl⟩ := exists_clauseOf_of_mem_block member
  exact Operator.isSettled_clause _ _ (Operand.isSettled_typed _ raw)

theorem isSettled_of_mem {settings : Settings} {parameters : Parameters} {clause : Clause}
    (member : clause ∈ (ofParameters settings parameters).clauses) : clause.IsSettled := by
  rw [clauses_eq_flatMap] at member
  obtain ⟨_, _, inside⟩ := List.mem_flatMap.mp member
  exact isSettled_of_mem_block inside

end Filter

/-! ## JSON of settled filters -/

namespace Operand

mutual

/-- A settled operand is recovered from its JSON value. -/
theorem ofJson?_toJson (operand : Operand) (interpreted : operand.interpret = operand)
    (fourDigits : ∀ instant ∈ operand.dates, instant.HasFourDigitYear) :
    ofJson? operand.toJson = some operand.toMillis := by
  cases operand with
  | null => rfl
  | bool value => rfl
  | int value => rfl
  | date instant =>
    have written := ofText_text (fourDigits instant (List.mem_singleton.mpr rfl))
    rw [toJson, ofJson?, written, toMillis]
  | text value =>
    rw [interpret] at interpreted
    rw [toJson, ofJson?, interpreted]
    rfl
  | list items =>
    rw [interpret] at interpreted
    rw [dates] at fourDigits
    rw [toJson, ofJson?, listOfJson?_listToJson items (Operand.list.inj interpreted) fourDigits]
    rfl

/-- A list of settled operands is recovered from its JSON values. -/
theorem listOfJson?_listToJson (items : List Operand) (interpreted : interpretList items = items)
    (fourDigits : ∀ instant ∈ listDates items, instant.HasFourDigitYear) :
    listOfJson? (listToJson items) = some (listToMillis items) := by
  cases items with
  | nil => rfl
  | cons item items =>
    rw [interpretList, List.cons.injEq] at interpreted
    have first : ∀ instant ∈ item.dates, instant.HasFourDigitYear :=
      fun instant member => fourDigits instant (List.mem_append_left _ member)
    have others : ∀ instant ∈ listDates items, instant.HasFourDigitYear :=
      fun instant member => fourDigits instant (List.mem_append_right _ member)
    rw [listToJson, listOfJson?, ofJson?_toJson item interpreted.1 first,
      listOfJson?_listToJson items interpreted.2 others]
    rfl

end

end Operand

theorem mapM_map_eq_some {α β γ : Type} {items : List α} {write : α → β} {read : β → Option γ}
    {result : α → γ} (each : ∀ item ∈ items, read (write item) = some (result item)) :
    (items.map write).mapM read = some (items.map result) := by
  induction items with
  | nil => rfl
  | cons item items ih =>
    rw [List.map_cons, List.mapM_cons, each item List.mem_cons_self,
      ih fun other member => each other (List.mem_cons_of_mem _ member)]
    rfl

namespace Clause

theorem plain_toJson {clause : Clause} (settled : clause.IsSettled) (depth : Nat) :
    Json.IsPlain (depth + 3) clause.toJson := by
  have symbols := settled.symbols
  have inner : Json.IsPlain (depth + 2)
      (.object (clause.predicate.map fun entry => (entry.1, entry.2.toJson))) := by
    apply Json.isPlain_object
    · rw [List.map_map]
      exact symbols
    · intro member listed
      obtain ⟨entry, inside, rfl⟩ := List.mem_map.mp listed
      exact (settled.operands entry inside).plain depth
  apply Json.isPlain_object
  · exact List.nodup_cons.mpr ⟨List.not_mem_nil, List.nodup_nil⟩
  · intro member listed
    rw [List.mem_singleton.mp listed]
    exact inner

theorem ofJson?_toJson {clause : Clause} (settled : clause.IsSettled)
    (fourDigits : ∀ instant ∈ clause.dates, instant.HasFourDigitYear) :
    ofJson? clause.toJson = some clause.toMillis := by
  have each : ∀ entry ∈ clause.predicate,
      (Operand.ofJson? entry.2.toJson).map (fun operand => (entry.1, operand)) =
        some (entry.1, entry.2.toMillis) := by
    intro entry member
    have dates : ∀ instant ∈ entry.2.dates, instant.HasFourDigitYear :=
      fun instant inside => fourDigits instant (List.mem_flatMap.mpr ⟨entry, member, inside⟩)
    rw [Operand.ofJson?_toJson entry.2 (settled.operands entry member).interpreted dates]
    rfl
  unfold toJson ofJson?
  simp only
  rw [mapM_map_eq_some each]
  rfl

end Clause

theorem Connective.ofSymbol?_symbol (connective : Connective) :
    ofSymbol? connective.symbol = some connective := by
  cases connective <;> decide

namespace Filter

theorem plain_toJson {filter : Filter} (settled : ∀ clause ∈ filter.clauses, clause.IsSettled)
    (depth : Nat) : Json.IsPlain (depth + 5) filter.toJson := by
  cases filter with
  | empty => exact Json.isPlain_object List.nodup_nil fun _ listed => absurd listed List.not_mem_nil
  | group connective first rest =>
    have inner : Json.IsPlain (depth + 4) (.array ((first :: rest).map Clause.toJson)) := by
      apply Json.isPlain_array
      intro json listed
      obtain ⟨clause, inside, rfl⟩ := List.mem_map.mp listed
      exact Clause.plain_toJson (settled clause inside) depth
    apply Json.isPlain_object
    · exact List.nodup_cons.mpr ⟨List.not_mem_nil, List.nodup_nil⟩
    · intro member listed
      rw [List.mem_singleton.mp listed]
      exact inner

theorem ofJson?_toJson {filter : Filter} (settled : ∀ clause ∈ filter.clauses, clause.IsSettled)
    (fourDigits : ∀ instant ∈ filter.dates, instant.HasFourDigitYear) :
    ofJson? filter.toJson = some filter.toMillis := by
  cases filter with
  | empty => rfl
  | group connective first rest =>
    have each : ∀ clause ∈ first :: rest, Clause.ofJson? clause.toJson = some clause.toMillis :=
      fun clause member => Clause.ofJson?_toJson (settled clause member)
        fun instant inside => fourDigits instant (List.mem_flatMap.mpr ⟨clause, member, inside⟩)
    unfold toJson ofJson?
    simp only
    rw [Connective.ofSymbol?_symbol, mapM_map_eq_some each]
    rfl

/-- A settled filter is recovered from its text. -/
theorem read?_compact {filter : Filter} (settled : ∀ clause ∈ filter.clauses, clause.IsSettled)
    (fourDigits : ∀ instant ∈ filter.dates, instant.HasFourDigitYear) :
    read? (Json.compact filter.toJson) = some filter.toMillis := by
  have plain : Json.IsPlain Json.Document.greatestDepth filter.toJson := plain_toJson settled 122
  have taken := Json.take?_compact plain (Or.inl rfl)
  rw [List.append_nil] at taken
  unfold read?
  rw [taken]
  exact ofJson?_toJson settled fourDigits

/-- Filters of requests with the same text are the same but for what is finer than a millisecond in
their dates, and a reader who looks at every text once more has them back, when their dates have
years of four digits. -/
theorem recovered_from_text (settings : Settings) {left right : Parameters}
    (leftYears : ∀ instant ∈ (ofParameters settings left).dates, instant.HasFourDigitYear)
    (rightYears : ∀ instant ∈ (ofParameters settings right).dates, instant.HasFourDigitYear) :
    (Json.compact (ofParameters settings left).toJson =
        Json.compact (ofParameters settings right).toJson →
      (ofParameters settings left).toMillis = (ofParameters settings right).toMillis) ∧
      read? (Json.compact (ofParameters settings left).toJson) =
        some (ofParameters settings left).toMillis ∧
      read? (Json.compact (ofParameters settings right).toJson) =
        some (ofParameters settings right).toMillis := by
  have first := read?_compact (fun _ => isSettled_of_mem) leftYears
  have second := read?_compact (fun _ => isSettled_of_mem) rightYears
  refine ⟨fun same => ?_, first, second⟩
  rw [same, second] at first
  exact (Option.some.inj first).symm

/-- Dates that differ in a tenth of a millisecond, one of them in a leap second, and texts that look
like dates. -/
theorem recovered_from_text_leap_second :
    let left := Parameters.ofPairs [("at.in", "2016-12-31T23:59:60.0001Z,2016-02-30"), ("n.eqInt", "7")]
    let right := Parameters.ofPairs [("at.in", "2016-12-31T23:59:60.0002Z,2016-02-30"), ("n.eqInt", "7")]
    (∀ instant ∈ (ofParameters .builtin left).dates, instant.HasFourDigitYear) ∧
      (∀ instant ∈ (ofParameters .builtin right).dates, instant.HasFourDigitYear) ∧
      ofParameters .builtin left ≠ ofParameters .builtin right ∧
      Json.compact (ofParameters .builtin left).toJson =
        Json.compact (ofParameters .builtin right).toJson ∧
      (ofParameters .builtin left).toMillis = (ofParameters .builtin right).toMillis := by
  intro left right
  have leftYears : ∀ instant ∈ (ofParameters .builtin left).dates, instant.HasFourDigitYear := by
    decide +kernel
  have rightYears : ∀ instant ∈ (ofParameters .builtin right).dates, instant.HasFourDigitYear := by
    decide +kernel
  have same : Json.compact (ofParameters .builtin left).toJson =
      Json.compact (ofParameters .builtin right).toJson := by
    decide +kernel
  obtain ⟨equal, _, _⟩ := recovered_from_text .builtin leftYears rightYears
  exact ⟨leftYears, rightYears, by decide +kernel, same, equal same⟩

end Filter

end DocumentQuery
