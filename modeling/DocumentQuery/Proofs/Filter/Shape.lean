import DocumentQuery.Proofs.Filter.Recovery

/-!
The shapes of clauses, operator by operator.

Each operator makes predicates of one form: which symbols they have, in which order, and what kind of
operand stands under each (`Operator.Shape`). No clause of a filter has another form, whatever the
raw value, and no text in it would still be taken for something else.
-/

namespace DocumentQuery

/-! ## Kinds of operands -/

namespace Operand

/-- Whether the operand is no list. -/
def isScalar : Operand → Bool
  | .list _ => false
  | _ => true

/-- Whether the operand is a truth value. -/
def isBool : Operand → Bool
  | .bool _ => true
  | _ => false

/-- Whether the operand has no list inside a list. -/
def isFlat : Operand → Bool
  | .list items => items.all isScalar
  | _ => true

theorem isScalar_of_ne_list {operand : Operand} (scalar : ∀ items, operand ≠ .list items) :
    operand.isScalar = true := by
  cases operand with
  | list items => exact absurd rfl (scalar items)
  | _ => rfl

/-- A raw value that is no array gives no list, unless its text is cut into pieces. -/
theorem isScalar_typed {transform : Option Transform} (whole : transform ≠ some .inPieces)
    {value : RawValue} (one : ∀ texts, value ≠ .multiple texts) :
    (typed transform (ofRaw value)).isScalar = true := by
  apply isScalar_of_ne_list
  cases value with
  | null => exact typed_null_ne_list transform
  | single text => exact typed_text_ne_list whole text
  | multiple texts => exact absurd rfl (one texts)

theorem isBool_typed {value : RawValue} (one : ∀ texts, value ≠ .multiple texts) :
    (typed (some .presence) (ofRaw value)).isBool = true := by
  cases value with
  | null => rfl
  | single text => rfl
  | multiple texts => exact absurd rfl (one texts)

theorem isFlat_interpret_texts (texts : List String) :
    (interpret (.list (texts.map .text))).isFlat = true := by
  rw [interpret_texts, isFlat, List.all_eq_true]
  intro item member
  obtain ⟨text, _, rfl⟩ := List.mem_map.mp member
  exact isScalar_of_ne_list (ofText_ne_list text)

theorem isFlat_typed (value : RawValue) : (typed (some .inPieces) (ofRaw value)).isFlat = true := by
  cases value with
  | null => rfl
  | single text => exact isFlat_interpret_texts _
  | multiple texts => exact isFlat_interpret_texts texts

end Operand

/-! ## Shapes -/

/-- Whether an instant is the first of its day. -/
def Instant.IsMidnight (instant : Instant) : Prop :=
  instant.secondOfDay = 0 ∧ instant.nanos = 0

theorem Instant.isMidnight_ofDay (number : Int) : (ofDay number).IsMidnight := by
  refine ⟨?_, rfl⟩
  show (number * 86400 % 86400).toNat = 0
  omega

namespace Operator

/-- A predicate with one entry, an operand of a kind under a symbol. -/
def OneEntry (symbol : String) (kind : Operand → Bool) (predicate : List (String × Operand)) : Prop :=
  ∃ operand, kind operand = true ∧ predicate = [(symbol, operand)]

/-- The form of the predicates that an operator makes. -/
def Shape : Operator → List (String × Operand) → Prop
  | eq => OneEntry "$eq" Operand.isScalar
  | ne => OneEntry "$ne" Operand.isScalar
  | lt => OneEntry "$lt" Operand.isScalar
  | lte => OneEntry "$lte" Operand.isScalar
  | gt => OneEntry "$gt" Operand.isScalar
  | gte => OneEntry "$gte" Operand.isScalar
  | eqInt => OneEntry "$eq" Operand.isScalar
  | contains => fun predicate => ∃ operand : Operand, operand.isScalar = true ∧
      predicate = [("$regex", operand), ("$options", .text "i")]
  | existence => OneEntry "$exists" Operand.isBool
  | within => OneEntry "$in" Operand.isFlat
  | eqDate => fun predicate =>
      (∃ start stop : Instant, start.IsMidnight ∧ stop.IsMidnight ∧
        stop.seconds = start.seconds + 86400 ∧
        predicate = [("$gte", .date start), ("$lt", .date stop)]) ∨
      OneEntry "$eq" (fun operand => operand.isScalar && operand.instant?.isNone) predicate

/-- A date under `eqDate` is the range of its day, and another scalar is compared as it is. -/
theorem shape_eqDate (field : String) {operand : Operand} (scalar : operand.isScalar = true)
    (bounded : ∀ instant ∈ operand.dates,
      instant.dayBounds? = some (instant.startOfDay, .ofDay (instant.day + 1))) :
    eqDate.Shape (eqDate.clause field operand).predicate := by
  cases operand with
  | date instant =>
    have both := bounded instant (List.mem_singleton.mpr rfl)
    have range : eqDate.clause field (.date instant) =
        rangeClause field instant.startOfDay (.ofDay (instant.day + 1)) := by
      unfold clause
      simp only [spansDay, Operand.instant?, Option.bind_some, both]
    rw [range]
    refine Or.inl ⟨_, _, Instant.isMidnight_ofDay _, Instant.isMidnight_ofDay _, ?_, rfl⟩
    show (instant.day + 1) * 86400 = instant.day * 86400 + 86400
    omega
  | list items => cases scalar
  | null => exact Or.inr ⟨_, rfl, rfl⟩
  | bool value => exact Or.inr ⟨_, rfl, rfl⟩
  | int value => exact Or.inr ⟨_, rfl, rfl⟩
  | text value => exact Or.inr ⟨_, rfl, rfl⟩

theorem shape_clause {operator : Operator} {value : RawValue} (field : String)
    (one : operator = .within ∨ ∀ texts, value ≠ .multiple texts) :
    operator.Shape
      (operator.clause field (Operand.typed operator.transform? (Operand.ofRaw value))).predicate := by
  by_cases within : operator = .within
  · subst within
    exact ⟨_, Operand.isFlat_typed value, rfl⟩
  · have single := one.resolve_left within
    have scalar := Operand.isScalar_typed (transform?_ne_inPieces within) single
    cases operator with
    | within => exact absurd rfl within
    | existence => exact ⟨_, Operand.isBool_typed single, rfl⟩
    | eqDate => exact shape_eqDate field scalar fun _ => Operand.dayBounds?_of_mem_dates
    | _ => exact ⟨_, scalar, rfl⟩

end Operator

/-! ## Texts that are left -/

namespace Operand

mutual

/-- The texts in an operand, in their order. -/
def texts : Operand → List String
  | .text value => [value]
  | .list items => listTexts items
  | _ => []

/-- The texts in a list of operands. -/
def listTexts : List Operand → List String
  | [] => []
  | item :: items => texts item ++ listTexts items

end

mutual

/-- The texts of an operand in which a second look finds nothing new spell nothing else. -/
theorem interpret_text_of_mem_texts (operand : Operand) (interpreted : operand.interpret = operand) :
    ∀ text ∈ operand.texts, interpret (.text text) = .text text := by
  intro text member
  cases operand with
  | text value =>
    rw [List.mem_singleton.mp member]
    exact interpreted
  | list items =>
    rw [interpret] at interpreted
    exact interpret_text_of_mem_listTexts items (Operand.list.inj interpreted) text member
  | null => cases member
  | bool value => cases member
  | int value => cases member
  | date instant => cases member

theorem interpret_text_of_mem_listTexts (items : List Operand)
    (interpreted : interpretList items = items) :
    ∀ text ∈ listTexts items, interpret (.text text) = .text text := by
  intro text member
  cases items with
  | nil => cases member
  | cons item items =>
    rw [interpretList, List.cons.injEq] at interpreted
    rw [listTexts, List.mem_append] at member
    rcases member with first | later
    · exact interpret_text_of_mem_texts item interpreted.1 text first
    · exact interpret_text_of_mem_listTexts items interpreted.2 text later

end

theorem eq_of_mem_texts_ofText {value text : String} (member : text ∈ (ofText value).texts) :
    text = value := by
  rcases ofText_cases value with ⟨_, read⟩ | ⟨_, read⟩ | ⟨_, read⟩ | ⟨_, _, read⟩ | ⟨_, read⟩ <;>
    rw [read] at member
  · cases member
  · cases member
  · cases member
  · cases member
  · exact List.mem_singleton.mp member

/-- A text that is left where whole numbers are read is none. -/
theorem wholeNumber_text_of_mem_texts {value : RawValue} (one : ∀ texts, value ≠ .multiple texts)
    {text : String} (member : text ∈ (typed (some .wholeNumber) (ofRaw value)).texts) :
    wholeNumber (.text text) = .text text := by
  cases value with
  | null => cases member
  | multiple texts => exact absurd rfl (one texts)
  | single written =>
    change text ∈ (interpret (wholeNumber (.text written))).texts at member
    rw [wholeNumber] at member
    cases spelled : wordOfText? written with
    | some number =>
      rw [spelled] at member
      cases member
    | none =>
      rw [spelled] at member
      rw [eq_of_mem_texts_ofText member, wholeNumber, spelled]

end Operand

/-- The texts in a clause. -/
def Clause.texts (clause : Clause) : List String :=
  clause.predicate.flatMap fun entry => entry.2.texts

theorem Clause.interpret_text_of_mem_texts {clause : Clause} (settled : clause.IsSettled) :
    ∀ text ∈ clause.texts, Operand.interpret (.text text) = .text text := by
  intro text member
  obtain ⟨entry, inside, within⟩ := List.mem_flatMap.mp member
  exact Operand.interpret_text_of_mem_texts entry.2 (settled.operands entry inside).interpreted
    text within

theorem Operator.wholeNumber_text_of_mem_texts {value : RawValue} (field : String)
    (one : ∀ texts, value ≠ .multiple texts) :
    ∀ text ∈ (eqInt.clause field (Operand.typed eqInt.transform? (Operand.ofRaw value))).texts,
      Operand.wholeNumber (.text text) = .text text := by
  intro text member
  have alone : ∀ operand, (eqInt.clause field operand).texts = operand.texts :=
    fun operand => List.append_nil operand.texts
  rw [alone] at member
  exact Operand.wholeNumber_text_of_mem_texts one member

/-! ## Shapes in a filter -/

namespace Filter

theorem shape_of_mem_block {key : String} {value : RawValue} {clause : Clause}
    (member : clause ∈ block key value) :
    (FieldKey.ofString key).operator.Shape clause.predicate := by
  obtain ⟨raw, one, rfl⟩ := exists_clauseOf_of_mem_block member
  exact Operator.shape_clause _ one

theorem wholeNumber_text_of_mem_block {key : String} {value : RawValue} {clause : Clause}
    (member : clause ∈ block key value) (eqInt : (FieldKey.ofString key).operator = .eqInt) :
    ∀ text ∈ clause.texts, Operand.wholeNumber (.text text) = .text text := by
  obtain ⟨raw, one, rfl⟩ := exists_clauseOf_of_mem_block member
  unfold clauseOf
  simp only [eqInt] at one ⊢
  exact Operator.wholeNumber_text_of_mem_texts _ (one.resolve_left Operator.noConfusion)

/-- The clauses of a filter are the blocks of its parameters, and every clause of a block has the
shape that goes with the operator of the parameter's name. No clause has a symbol twice, and no text
in one spells anything else: neither a literal nor a date, and under `eqInt` no whole number. -/
theorem every_clause_in_shape (settings : Settings) (parameters : Parameters) :
    (ofParameters settings parameters).clauses =
        (unreserved settings parameters).flatMap (fun entry => block entry.1 entry.2) ∧
      ∀ entry ∈ unreserved settings parameters, ∀ clause ∈ block entry.1 entry.2,
        (FieldKey.ofString entry.1).operator.Shape clause.predicate ∧
          (clause.predicate.map Prod.fst).Nodup ∧
          ∀ text ∈ clause.texts, Operand.interpret (.text text) = .text text ∧
            ((FieldKey.ofString entry.1).operator = .eqInt →
              Operand.wholeNumber (.text text) = .text text) := by
  refine ⟨clauses_eq_flatMap settings parameters, fun entry _ clause member => ?_⟩
  have settled := isSettled_of_mem_block member
  refine ⟨shape_of_mem_block member, settled.symbols, fun text inside => ⟨?_, fun eqInt => ?_⟩⟩
  · exact Clause.interpret_text_of_mem_texts settled text inside
  · exact wholeNumber_text_of_mem_block member eqInt text inside

/-- The range of the last day of year 9999, and a text that is left among whole numbers. -/
theorem every_clause_in_shape_last_day :
    let parameters := Parameters.ofPairs
      [("n.eqInt", " 7 "), ("day.eqDate", "9999-12-31"), ("n.eqInt", "7.0")]
    let day := clauseOf "day.eqDate" (.single "9999-12-31")
    let number := clauseOf "n.eqInt" (.single "7.0")
    (("day.eqDate", .single "9999-12-31") ∈ unreserved .builtin parameters ∧
        day ∈ block "day.eqDate" (.single "9999-12-31") ∧
        Operator.eqDate.Shape day.predicate) ∧
      ("n.eqInt", .multiple [" 7 ", "7.0"]) ∈ unreserved .builtin parameters ∧
        number ∈ block "n.eqInt" (.multiple [" 7 ", "7.0"]) ∧ "7.0" ∈ number.texts ∧
        Operand.wholeNumber (.text "7.0") = .text "7.0" := by
  intro parameters day number
  have dayEntry : ("day.eqDate", .single "9999-12-31") ∈ unreserved .builtin parameters := by
    decide
  have dayClause : day ∈ block "day.eqDate" (.single "9999-12-31") := by
    decide +kernel
  have eqDate : (FieldKey.ofString "day.eqDate").operator = .eqDate := by
    decide
  have numberEntry : ("n.eqInt", .multiple [" 7 ", "7.0"]) ∈ unreserved .builtin parameters := by
    decide
  have numberClause : number ∈ block "n.eqInt" (.multiple [" 7 ", "7.0"]) := by
    decide +kernel
  have text : "7.0" ∈ number.texts := by
    decide +kernel
  obtain ⟨_, shapes⟩ := every_clause_in_shape .builtin parameters
  obtain ⟨shape, _, _⟩ := shapes _ dayEntry day dayClause
  obtain ⟨_, _, left⟩ := shapes _ numberEntry number numberClause
  rw [eqDate] at shape
  exact ⟨⟨dayEntry, dayClause, shape⟩, numberEntry, numberClause, text,
    (left "7.0" text).2 (by decide)⟩

end Filter

end DocumentQuery
