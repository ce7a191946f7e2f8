import DocumentQuery.Proofs.Filter.Dates
import DocumentQuery.Proofs.Filter.Repetition
import DocumentQuery.Proofs.Operand.Dates

/-!
The operands of `in` and of `contains`.

For `in` a parameter gives one clause. Its operand is the list of what the texts of the raw value spell,
the pieces of a single text among them, and no list at all for an explicit null
(`Filter.membership_list_unless_null`). For `contains` each text of the raw value gives a clause with a
pattern. Patterns are looked at like the operands of any other operator, so a text that spells something
else is not sent as it was typed (`Filter.pattern_is_what_text_spells`).
-/

namespace DocumentQuery

/-! ## What texts spell -/

/-- Whether a text is a calendar date or a timestamp for an instant. -/
def Instant.IsSpelledBy (instant : Instant) (text : String) : Prop :=
  (∃ date : Date, (0 ≤ date.year ∧ date.year ≤ 9999) ∧
    text.toList = Timestamp.dateText date ∧ instant = date.midnight) ∨
  ∃ timestamp : Timestamp, text.toList = timestamp.text ∧ instant = timestamp.instant

theorem Instant.isSpelledBy_iff {instant : Instant} {text : String} :
    instant.IsSpelledBy text ↔ ofText? text = some instant :=
  ofText?_eq_some_iff.symm

namespace Operand

theorem ofText_eq_date_of_isSpelledBy {instant : Instant} {text : String}
    (spelled : instant.IsSpelledBy text) : ofText text = .date instant :=
  ofText_eq_date_iff.mpr (Instant.isSpelledBy_iff.mp spelled)

/-- A text stays a text when it is no literal and spells no instant. -/
theorem ofText_eq_text_iff {text : String} :
    ofText text = .text text ↔
      text ∉ ["null", "true", "false"] ∧ ∀ instant : Instant, ¬ instant.IsSpelledBy text := by
  constructor
  · intro left
    constructor
    · intro literal
      simp only [List.mem_cons, List.not_mem_nil, or_false] at literal
      rcases literal with rfl | rfl | rfl <;> cases left
    · intro instant spelled
      rw [ofText_eq_date_of_isSpelledBy spelled] at left
      cases left
  · intro plain
    obtain ⟨literal, unspelled⟩ := plain
    simp only [List.mem_cons, List.not_mem_nil, or_false, not_or] at literal
    rcases ofText_cases text with ⟨same, _⟩ | ⟨same, _⟩ | ⟨same, _⟩ | ⟨instant, spelled, _⟩ | ⟨_, read⟩
    · exact absurd same literal.1
    · exact absurd same literal.2.1
    · exact absurd same literal.2.2
    · exact absurd (Instant.isSpelledBy_iff.mpr spelled) (unspelled instant)
    · exact read

/-- A raw value that gives texts is the list of what they spell, where texts are cut into pieces. -/
theorem typed_inPieces {value : RawValue} (given : value ≠ .null) :
    typed (some .inPieces) (ofRaw value) =
      .list ((value.readTexts (some .inPieces)).map ofText) := by
  cases value with
  | null => exact absurd rfl given
  | single text => exact interpret_texts (Text.pieces ',' text)
  | multiple texts => exact interpret_texts texts

end Operand

/-! ## Membership lists -/

namespace Filter

variable {key : String}

theorem clauseOf_within (within : (FieldKey.ofString key).operator = .within) (value : RawValue) :
    clauseOf key value = ⟨(FieldKey.ofString key).field,
      [("$in", Operand.typed (some .inPieces) (Operand.ofRaw value))]⟩ := by
  unfold clauseOf
  simp only [within]
  rfl

/-- A parameter for `in` gives one clause with one operand. It is a list, of what the texts or the pieces of
the one text spell, unless the parameter has no value: the missing value is passed on as it is. -/
theorem membership_list_unless_null (settings : Settings) (parameters : Parameters) :
    (ofParameters settings parameters).clauses =
        (unreserved settings parameters).flatMap (fun entry => block entry.1 entry.2) ∧
      ∀ entry ∈ unreserved settings parameters, (FieldKey.ofString entry.1).operator = .within →
        ∃ operand : Operand,
          block entry.1 entry.2 = [⟨(FieldKey.ofString entry.1).field, [("$in", operand)]⟩] ∧
          ((∃ items, operand = .list items) ↔ entry.2 ≠ .null) ∧
          (entry.2 ≠ .null →
            operand = .list ((entry.2.readTexts (some .inPieces)).map Operand.ofText)) ∧
          (entry.2 = .null → operand = .null) := by
  refine ⟨clauses_eq_flatMap settings parameters, fun entry _ within => ?_⟩
  refine ⟨Operand.typed (some .inPieces) (Operand.ofRaw entry.2), ?_, ?_, Operand.typed_inPieces,
    fun null => ?_⟩
  · rw [block_within within, clauseOf_within within]
  · constructor
    · intro isList null
      obtain ⟨items, list⟩ := isList
      rw [null] at list
      cases list
    · exact fun given => ⟨_, Operand.typed_inPieces given⟩
  · rw [null]
    rfl

/-- A list in one text, and a name without a value. -/
theorem membership_list_unless_null_missing :
    let parameters : Parameters := .ofList [("id.in", .single "null, 2"), ("tag.in", .null)]
    ("id.in", .single "null, 2") ∈ unreserved .builtin parameters ∧
      ("tag.in", .null) ∈ unreserved .builtin parameters ∧
      (FieldKey.ofString "id.in").operator = .within ∧
      (FieldKey.ofString "tag.in").operator = .within ∧
      block "id.in" (.single "null, 2") = [⟨"id", [("$in", .list [.null, .text " 2"])]⟩] ∧
      block "tag.in" .null = [⟨"tag", [("$in", .null)]⟩] := by
  intro parameters
  have listed : ("id.in", .single "null, 2") ∈ unreserved .builtin parameters := by decide
  have missing : ("tag.in", .null) ∈ unreserved .builtin parameters := by decide
  have idWithin : (FieldKey.ofString "id.in").operator = .within := by decide
  have tagWithin : (FieldKey.ofString "tag.in").operator = .within := by decide
  obtain ⟨_, lists⟩ := membership_list_unless_null .builtin parameters
  obtain ⟨ids, idBlock, _, idList, _⟩ := lists _ listed idWithin
  obtain ⟨tags, tagBlock, _, _, tagNull⟩ := lists _ missing tagWithin
  rw [idList nofun] at idBlock
  rw [tagNull rfl] at tagBlock
  exact ⟨listed, missing, idWithin, tagWithin, idBlock.trans (by decide +kernel), tagBlock.trans (by decide)⟩

/-! ## Patterns -/

/-- The clause that looks for a pattern in a field, upper and lower case being the same. -/
def patternClause (field : String) (pattern : Operand) : Clause where
  field := field
  predicate := [("$regex", pattern), ("$options", .text "i")]

theorem clauseOf_contains (contains : (FieldKey.ofString key).operator = .contains) (text : String) :
    clauseOf key (.single text) =
      patternClause (FieldKey.ofString key).field (Operand.ofText text) := by
  unfold clauseOf
  simp only [contains]
  rfl

theorem block_contains (contains : (FieldKey.ofString key).operator = .contains) (value : RawValue) :
    block key value = value.texts.map fun text =>
      patternClause (FieldKey.ofString key).field (Operand.ofText text) := by
  have each : (FieldKey.ofString key).operator ≠ .within := by
    rw [contains]
    decide
  rw [block_eq_map_texts each]
  exact List.map_congr_left fun text _ => clauseOf_contains contains text

/-- Not every pattern is the text that was typed: `true` is sent as a truth value. -/
theorem pattern_is_not_always_text :
    ¬ ∀ (settings : Settings) (parameters : Parameters), ∀ entry ∈ unreserved settings parameters,
      (FieldKey.ofString entry.1).operator = .contains → entry.2 ≠ .null →
        block entry.1 entry.2 = entry.2.texts.map fun text =>
          patternClause (FieldKey.ofString entry.1).field (.text text) := by
  intro all
  have typed := all .builtin (.ofPairs [("title.contains", "true")])
    ("title.contains", .single "true") (by decide) (by decide) nofun
  have sent : block "title.contains" (.single "true") = [patternClause "title" (.bool true)] := by
    decide
  rw [sent] at typed
  exact absurd typed (by decide)

/-- A parameter for `contains` gives one clause for each text of its raw value, in their order, and each has
what the text spells as its pattern, and the option for either case. So a pattern is the text that was
typed when this is no literal and spells no instant, and only then: the literals are sent as no value and
as truth values, and dates as the instants that they spell. -/
theorem pattern_is_what_text_spells (settings : Settings) (parameters : Parameters) :
    (ofParameters settings parameters).clauses =
        (unreserved settings parameters).flatMap (fun entry => block entry.1 entry.2) ∧
      (∀ entry ∈ unreserved settings parameters, (FieldKey.ofString entry.1).operator = .contains →
        block entry.1 entry.2 = entry.2.texts.map fun text =>
          patternClause (FieldKey.ofString entry.1).field (Operand.ofText text)) ∧
      (∀ text, Operand.ofText text = .text text ↔
        text ∉ ["null", "true", "false"] ∧ ∀ instant : Instant, ¬ instant.IsSpelledBy text) ∧
      Operand.ofText "null" = .null ∧ Operand.ofText "true" = .bool true ∧
      Operand.ofText "false" = .bool false ∧
      ∀ text (instant : Instant), instant.IsSpelledBy text → Operand.ofText text = .date instant :=
  ⟨clauses_eq_flatMap settings parameters, fun entry _ contains => block_contains contains entry.2,
    fun _ => Operand.ofText_eq_text_iff, rfl, rfl, rfl,
    fun _ _ => Operand.ofText_eq_date_of_isSpelledBy⟩

/-- Patterns that were typed as a word, as a literal and as a date. -/
theorem pattern_is_what_text_spells_typed :
    let texts := ["jo", "true", "2024-02-29"]
    let parameters : Parameters :=
      .ofList [("title.contains", .multiple texts), ("page", .single "2")]
    let leapDay : Date := ⟨2024, 2, 29, by decide⟩
    ("title.contains", .multiple texts) ∈ unreserved .builtin parameters ∧
      (FieldKey.ofString "title.contains").operator = .contains ∧
      leapDay.midnight.IsSpelledBy "2024-02-29" ∧ (∀ instant : Instant, ¬ instant.IsSpelledBy "jo") ∧
      (ofParameters .builtin parameters).clauses =
        [patternClause "title" (.text "jo"), patternClause "title" (.bool true),
          patternClause "title" (.date leapDay.midnight)] := by
  intro texts parameters leapDay
  obtain ⟨all, blocks, kept, _, isTrue, _, dates⟩ := pattern_is_what_text_spells .builtin parameters
  have member : ("title.contains", .multiple texts) ∈ unreserved .builtin parameters := by decide
  have contains : (FieldKey.ofString "title.contains").operator = .contains := by decide
  have field : (FieldKey.ofString "title.contains").field = "title" := by decide
  have spelled : leapDay.midnight.IsSpelledBy "2024-02-29" :=
    Or.inl ⟨leapDay, by decide, by decide, rfl⟩
  have word : Operand.ofText "jo" = .text "jo" := by decide
  have only : unreserved .builtin parameters = [("title.contains", .multiple texts)] := by decide
  refine ⟨member, contains, spelled, ((kept "jo").mp word).2, ?_⟩
  rw [all, only, List.flatMap_singleton, blocks _ member contains]
  simp only [RawValue.texts, texts, List.map_cons, List.map_nil, field, word, isTrue, dates _ _ spelled]

end Filter

end DocumentQuery
