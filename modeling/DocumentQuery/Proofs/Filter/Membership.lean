import DocumentQuery.Proofs.Filter.Operands
import DocumentQuery.Proofs.Settings.Check
import DocumentQuery.Proofs.Text.Split

/-!
Membership lists in one text or in several.

For `in` a text between commas and the list of its pieces are the same request: both give the one clause
with the operands that the pieces spell, each as it is written, and the clauses of all other parameters
stay where they are (`Filter.one_text_or_its_pieces`).
-/

namespace DocumentQuery.Filter

variable {settings : Settings} {key : String}

/-! ## One name and the others -/

/-- The filter of a request in which only the value of one name is left open: the block of that name
stands between clauses that do not depend on its value. -/
theorem exists_ofParameters_insert (unreserved : settings.reserves key = false)
    (parameters : Parameters) :
    ∃ before after, ∀ value,
      (parameters.insert key value).entries = before ++ (key, value) :: after ∧
        ofParameters settings (parameters.insert key value) =
          ofClauses (Connective.ofRaw? (parameters.get? settings.operatorKey))
            (clausesOf settings before ++ block key value ++ clausesOf settings after) := by
  obtain ⟨before, after, split⟩ := parameters.exists_split_insert key
  refine ⟨before, after, fun value => ⟨split value, ?_⟩⟩
  have other : settings.operatorKey ≠ key := by
    rintro rfl
    rw [settings.reserves_keys.2.2.2.1] at unreserved
    cases unreserved
  have connective := parameters.get?_insert key settings.operatorKey value
  rw [if_neg other] at connective
  have clauses := clauses_of_split unreserved (split value)
  rw [clauses_ofParameters] at clauses
  unfold ofParameters
  rw [connective, clauses]

/-! ## The block of a membership list -/

theorem block_within_multiple (within : (FieldKey.ofString key).operator = .within)
    (texts : List String) :
    block key (.multiple texts) =
      [⟨(FieldKey.ofString key).field, [("$in", .list (texts.map Operand.ofText))]⟩] := by
  rw [block_within within, clauseOf_within within, Operand.typed_inPieces RawValue.noConfusion]
  rfl

/-- For `in` a text has the block of the list of its pieces. -/
theorem block_within_single (within : (FieldKey.ofString key).operator = .within) (text : String) :
    block key (.single text) = block key (.multiple (Text.pieces ',' text)) := by
  rw [block_within_multiple within, block_within within, clauseOf_within within,
    Operand.typed_inPieces RawValue.noConfusion]
  rfl

/-- Under a name that is not reserved and has the operator `in`, a text gives one clause. Its operand is the
list of what the pieces between the commas spell, as they are written, one more than there are commas.
The list of these pieces asks for the same filter, and so does any other list of texts without commas in
them as the text that they are joined to. -/
theorem one_text_or_its_pieces (unreserved : settings.reserves key = false)
    (within : (FieldKey.ofString key).operator = .within) (parameters : Parameters) :
    (∀ text, ",".intercalate (Text.pieces ',' text) = text ∧
        (∀ piece ∈ Text.pieces ',' text, ',' ∉ piece.toList) ∧
        (Text.pieces ',' text).length = text.toList.count ',' + 1 ∧
        (∃ before after,
          (parameters.insert key (.single text)).entries = before ++ (key, .single text) :: after ∧
          (ofParameters settings (parameters.insert key (.single text))).clauses =
            clausesOf settings before ++ [⟨(FieldKey.ofString key).field,
              [("$in", .list ((Text.pieces ',' text).map Operand.ofText))]⟩] ++
              clausesOf settings after) ∧
        ofParameters settings (parameters.insert key (.single text)) =
          ofParameters settings (parameters.insert key (.multiple (Text.pieces ',' text)))) ∧
      ∀ texts, texts ≠ [] → (∀ text ∈ texts, ',' ∉ text.toList) →
        ofParameters settings (parameters.insert key (.multiple texts)) =
          ofParameters settings (parameters.insert key (.single (",".intercalate texts))) := by
  obtain ⟨before, after, inserted⟩ := exists_ofParameters_insert unreserved parameters
  have same : ∀ text, ofParameters settings (parameters.insert key (.single text)) =
      ofParameters settings (parameters.insert key (.multiple (Text.pieces ',' text))) := by
    intro text
    rw [(inserted _).2, (inserted _).2, block_within_single within]
  refine ⟨fun text => ⟨?_, fun piece => Text.not_mem_of_mem_pieces, Text.length_pieces ',' text,
    ⟨before, after, (inserted _).1, ?_⟩, same text⟩, fun texts nonempty whole => ?_⟩
  · rw [Text.intercalate_comma, Text.joined_pieces]
  · rw [(inserted _).2, clauses_ofClauses, block_within_single within, block_within_multiple within]
  · rw [Text.intercalate_comma, same, Text.pieces_joined nonempty whole]

/-- A text with empty pieces, literals and blanks, between a repeated parameter and a connective, and a list
with an empty text in front. -/
theorem one_text_or_its_pieces_empty :
    let parameters := Parameters.ofPairs
      [("tag", "x"), ("id.in", "old"), ("_op", "or"), ("tag", "y")]
    let text := ",null,,true , 2"
    let pieces := ["", "null", "", "true ", " 2"]
    let listed : Clause :=
      ⟨"id", [("$in", .list [.text "", .null, .text "", .text "true ", .text " 2"])]⟩
    Settings.builtin.reserves "id.in" = false ∧ (FieldKey.ofString "id.in").operator = .within ∧
      (∃ before after, (ofParameters .builtin (parameters.insert "id.in" (.single text))).clauses =
        clausesOf .builtin before ++ [listed] ++ clausesOf .builtin after) ∧
      ofParameters .builtin (parameters.insert "id.in" (.single text)) =
        ofParameters .builtin (parameters.insert "id.in" (.multiple pieces)) ∧
      (∀ text ∈ ["", "a"], ',' ∉ text.toList) ∧
      ofParameters .builtin (parameters.insert "id.in" (.multiple ["", "a"])) =
        ofParameters .builtin (parameters.insert "id.in" (.single ",a")) := by
  intro parameters text pieces listed
  have unreserved : Settings.builtin.reserves "id.in" = false := by decide
  have within : (FieldKey.ofString "id.in").operator = .within := by decide
  have whole : ∀ text ∈ ["", "a"], ',' ∉ text.toList := by decide
  have cut : Text.pieces ',' text = pieces := by decide
  obtain ⟨single, several⟩ := one_text_or_its_pieces unreserved within parameters
  obtain ⟨_, _, _, ⟨before, after, _, clauses⟩, same⟩ := single text
  rw [cut] at same clauses
  have spelled : pieces.map Operand.ofText =
      [.text "", .null, .text "", .text "true ", .text " 2"] := by decide
  rw [spelled] at clauses
  exact ⟨unreserved, within, ⟨before, after, clauses⟩, same, whole,
    several ["", "a"] (by decide) whole⟩

end DocumentQuery.Filter
