import DocumentQuery.Proofs.Filter.Blocks

/-!
Parameters that are given once more.

For an operator that takes texts one by one, a block has a clause for each text that the raw value
holds, the text `null` standing for no value (`Filter.block_eq_map_texts`). So one more occurrence of
a name puts one clause behind the block of the name, and leaves all other clauses where they are.
-/

namespace DocumentQuery

namespace Operand

theorem ofText_null : ofText "null" = .null := rfl

/-- No value counts as the text `null`, whatever the transform does with texts. -/
theorem typed_null {transform : Option Transform} (scalar : transform ≠ some .inPieces) :
    typed transform .null = typed transform (.text "null") := by
  rcases transform with _ | _ | _ | _
  · exact ofText_null.symm
  · exact absurd rfl scalar
  · rfl
  · have noNumber : wordOfText? "null" = none := by decide
    show _ = interpret (wholeNumber (.text "null"))
    rw [wholeNumber, noNumber]
    exact ofText_null.symm

end Operand

namespace Filter

variable {settings : Settings} {key : String}

/-! ## One name -/

theorem clauseOf_null (each : (FieldKey.ofString key).operator ≠ .within) :
    clauseOf key .null = clauseOf key (.single "null") := by
  unfold clauseOf
  simp only [Operand.ofRaw, Operand.typed_null (Operator.transform?_ne_inPieces each)]

/-- A block has the clauses of the texts that the raw value holds. -/
theorem block_eq_map_texts (each : (FieldKey.ofString key).operator ≠ .within) (value : RawValue) :
    block key value = value.texts.map fun text => clauseOf key (.single text) := by
  cases value with
  | null => rw [block_null, clauseOf_null each, RawValue.texts, List.map_singleton]
  | single text => rw [block_single, RawValue.texts, List.map_singleton]
  | multiple texts => exact block_multiple each texts

/-- Repeated texts have the blocks that they have one by one. -/
theorem block_multiple_eq_flatMap (each : (FieldKey.ofString key).operator ≠ .within)
    (texts : List String) :
    block key (.multiple texts) = texts.flatMap fun text => block key (.single text) := by
  simp only [block_single, block_multiple each, List.map_eq_flatMap]

theorem block_push (each : (FieldKey.ofString key).operator ≠ .within) (value : RawValue)
    (text : String) :
    block key (value.push text) = block key value ++ block key (.single text) := by
  rw [RawValue.push, block_multiple each, List.map_append, block_eq_map_texts each value,
    List.map_singleton, block_single]

/-! ## All names -/

/-- The clauses of the entries that are not reserved. -/
def clausesOf (settings : Settings) (entries : List (String × RawValue)) : List Clause :=
  (entries.filter fun entry => !settings.reserves entry.1).flatMap fun entry =>
    block entry.1 entry.2

theorem clausesOf_append (before after : List (String × RawValue)) :
    clausesOf settings (before ++ after) = clausesOf settings before ++ clausesOf settings after := by
  unfold clausesOf
  rw [List.filter_append, List.flatMap_append]

theorem clausesOf_cons {entry : String × RawValue} (unreserved : settings.reserves entry.1 = false)
    (after : List (String × RawValue)) :
    clausesOf settings (entry :: after) = block entry.1 entry.2 ++ clausesOf settings after := by
  unfold clausesOf
  rw [List.filter_cons_of_pos (by rw [unreserved, Bool.not_false]), List.flatMap_cons]

theorem clauses_of_split {parameters : Parameters} {value : RawValue}
    {before after : List (String × RawValue)} (unreserved : settings.reserves key = false)
    (split : parameters.entries = before ++ (key, value) :: after) :
    (ofParameters settings parameters).clauses =
      clausesOf settings before ++ block key value ++ clausesOf settings after := by
  have all : (ofParameters settings parameters).clauses = clausesOf settings parameters.entries :=
    clauses_ofParameters settings parameters
  rw [all, split, clausesOf_append, clausesOf_cons unreserved, List.append_assoc]

end Filter

namespace Parameters

/-- Add an occurrence of a name for each of the texts. -/
def appendAll (parameters : Parameters) (name : String) (texts : List String) : Parameters :=
  texts.foldl (fun parameters text => parameters.append name text) parameters

theorem entries_append_of_split {parameters : Parameters} {name : String} {value : RawValue}
    {before after : List (String × RawValue)}
    (split : parameters.entries = before ++ (name, value) :: after) (text : String) :
    (parameters.append name text).entries = before ++ (name, value.push text) :: after :=
  Dict.entries_alter_of_split split _

end Parameters

namespace Filter

variable {settings : Settings} {key : String}

/-- One more occurrence of a name adds the clause of its text behind the block of the name. -/
theorem clauses_append_of_split {parameters : Parameters} {value : RawValue}
    {before after : List (String × RawValue)} (unreserved : settings.reserves key = false)
    (each : (FieldKey.ofString key).operator ≠ .within)
    (split : parameters.entries = before ++ (key, value) :: after) (text : String) :
    (ofParameters settings (parameters.append key text)).clauses =
      clausesOf settings before ++ (block key value ++ block key (.single text)) ++
        clausesOf settings after := by
  rw [clauses_of_split unreserved (Parameters.entries_append_of_split split text),
    block_push each]

/-- Any number of further occurrences add the clauses of their texts there, in their order. -/
theorem clauses_appendAll_of_split {before after : List (String × RawValue)}
    (unreserved : settings.reserves key = false)
    (each : (FieldKey.ofString key).operator ≠ .within) (texts : List String) :
    ∀ {parameters : Parameters} {value : RawValue},
      parameters.entries = before ++ (key, value) :: after →
      (ofParameters settings (parameters.appendAll key texts)).clauses =
        clausesOf settings before ++
          (block key value ++ texts.flatMap fun text => block key (.single text)) ++
          clausesOf settings after := by
  induction texts with
  | nil =>
    intro parameters value split
    rw [List.flatMap_nil, List.append_nil]
    exact clauses_of_split unreserved split
  | cons text texts ih =>
    intro parameters value split
    have next := ih (Parameters.entries_append_of_split split text)
    rw [block_push each, List.append_assoc (block key value)] at next
    rw [List.flatMap_cons]
    exact next

/-- For a name that is not reserved and an operator that takes texts one by one, repeated texts have
the clauses that they have one by one. And where the name has a value, be it none or an empty list,
each further occurrence adds the one clause of its text directly behind the block of the name. The
clauses of that block, of the parameters before it and of those after it are the same as before. -/
theorem occurrence_adds_its_clause (unreserved : settings.reserves key = false)
    (each : (FieldKey.ofString key).operator ≠ .within) (parameters : Parameters) :
    (∀ texts, block key (.multiple texts) = texts.flatMap fun text => block key (.single text)) ∧
      (∀ text, block key (.single text) = [clauseOf key (.single text)]) ∧
      ∀ value, parameters.get? key = some value → ∃ before after,
        parameters.entries = before ++ (key, value) :: after ∧
        (ofParameters settings parameters).clauses =
          clausesOf settings before ++ block key value ++ clausesOf settings after ∧
        (∀ text, (ofParameters settings (parameters.append key text)).clauses =
          clausesOf settings before ++ (block key value ++ block key (.single text)) ++
            clausesOf settings after) ∧
        ∀ texts, (ofParameters settings (parameters.appendAll key texts)).clauses =
          clausesOf settings before ++
            (block key value ++ texts.flatMap fun text => block key (.single text)) ++
            clausesOf settings after := by
  refine ⟨block_multiple_eq_flatMap each, block_single key, fun value found => ?_⟩
  obtain ⟨before, after, split⟩ := Dict.exists_split_of_get? found
  exact ⟨before, after, split, clauses_of_split unreserved split,
    clauses_append_of_split unreserved each split,
    fun texts => clauses_appendAll_of_split unreserved each texts split⟩

/-- A name without a value, between others, that is given twice more. -/
theorem occurrence_adds_its_clause_null :
    let parameters : Parameters :=
      .ofList [("a", .single "x"), ("seen.exists", .null), ("b", .multiple ["y", "z"])]
    Settings.builtin.reserves "seen.exists" = false ∧
      (FieldKey.ofString "seen.exists").operator ≠ .within ∧
      parameters.get? "seen.exists" = some .null ∧
      ∃ before after,
        (ofParameters .builtin parameters).clauses =
          clausesOf .builtin before ++ [clauseOf "seen.exists" .null] ++ clausesOf .builtin after ∧
        (ofParameters .builtin (parameters.appendAll "seen.exists" ["true", "no"])).clauses =
          clausesOf .builtin before ++ [clauseOf "seen.exists" .null,
            clauseOf "seen.exists" (.single "true"), clauseOf "seen.exists" (.single "no")] ++
            clausesOf .builtin after := by
  intro parameters
  have unreserved : Settings.builtin.reserves "seen.exists" = false := by decide
  have each : (FieldKey.ofString "seen.exists").operator ≠ .within := by decide
  have found : parameters.get? "seen.exists" = some .null := by decide
  obtain ⟨_, single, occurrences⟩ := occurrence_adds_its_clause unreserved each parameters
  obtain ⟨before, after, _, all, _, run⟩ := occurrences .null found
  refine ⟨unreserved, each, found, before, after, ?_, ?_⟩
  · rw [all, block_null]
  · rw [run, block_null, List.flatMap_cons, List.flatMap_singleton, single, single]
    rfl

end Filter

end DocumentQuery
