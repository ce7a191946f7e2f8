import DocumentQuery.Filter
import DocumentQuery.Proofs.Dict
import DocumentQuery.Proofs.Operand.Recognition

/-!
The clauses of a filter, parameter by parameter.

The clauses of a request are those of its parameters, one block after another. A block is one clause
for an operator that takes arrays as a whole, and for a raw value that is no array; otherwise it is
one clause for each text of the array, the clause that the text gives by itself. All of them are
about the field of the parameter's name.
-/

namespace DocumentQuery

namespace Operand

/-! ## Where arrays come from -/

theorem typed_text_ne_list {transform : Option Transform} (scalar : transform ≠ some .inPieces)
    (text : String) (items : List Operand) : typed transform (.text text) ≠ .list items := by
  rcases transform with _ | _ | _ | _
  · exact ofText_ne_list text items
  · exact absurd rfl scalar
  · intro list
    cases list
  · intro list
    change interpret (wholeNumber (.text text)) = .list items at list
    rw [wholeNumber] at list
    split at list
    · cases list
    · exact ofText_ne_list text items list

theorem typed_null_ne_list (transform : Option Transform) (items : List Operand) :
    typed transform .null ≠ .list items := by
  intro list
  rcases transform with _ | _ | _ | _ <;> cases list

/-- A transform that does not cut texts treats an array item by item. -/
theorem typed_list {transform : Option Transform} (scalar : transform ≠ some .inPieces)
    (items : List Operand) : typed transform (.list items) = .list (items.map (typed transform)) := by
  rcases transform with _ | _ | _ | _
  · change interpret (.list items) = _
    rw [interpret, interpretList_eq_map]
    rfl
  · exact absurd rfl scalar
  · change interpret (presence (.list items)) = _
    rw [presence, presences_eq_map, interpret, interpretList_eq_map, List.map_map]
    rfl
  · change interpret (wholeNumber (.list items)) = _
    rw [wholeNumber, wholeNumbers_eq_map, interpret, interpretList_eq_map, List.map_map]
    rfl

end Operand

namespace Operator

/-- Only `in` takes an array as a whole, and only `in` cuts texts. -/
theorem spread_eq_whole_iff {operator : Operator} : operator.spread = .whole ↔ operator = within := by
  cases operator <;> decide

theorem transform?_ne_inPieces {operator : Operator} (ne : operator ≠ within) :
    operator.transform? ≠ some .inPieces := by
  cases operator <;> first | exact absurd rfl ne | decide

theorem clauses_of_ne_list (operator : Operator) (field : String) {operand : Operand}
    (scalar : ∀ items, operand ≠ .list items) :
    operator.clauses field operand = [operator.clause field operand] := by
  unfold clauses
  split
  · next items _ => exact absurd rfl (scalar items)
  · rfl

theorem clauses_within (field : String) (operand : Operand) :
    within.clauses field operand = [within.clause field operand] := rfl

theorem clauses_list {operator : Operator} (ne : operator ≠ within) (field : String)
    (items : List Operand) :
    operator.clauses field (.list items) = items.map (operator.clause field) := by
  have each : operator.spread = .each := by
    cases spread : operator.spread with
    | each => rfl
    | whole => exact absurd (spread_eq_whole_iff.mp spread) ne
  unfold clauses
  rw [each]

end Operator

namespace Filter

/-! ## One block -/

/-- The clause that a parameter gives when its raw value counts as one operand. -/
def clauseOf (key : String) (value : RawValue) : Clause :=
  let classified := FieldKey.ofString key
  classified.operator.clause classified.field
    (Operand.typed classified.operator.transform? (Operand.ofRaw value))

theorem field_clauseOf (key : String) (value : RawValue) :
    (clauseOf key value).field = (FieldKey.ofString key).field :=
  Operator.field_clause _ _ _

theorem block_within {key : String} (within : (FieldKey.ofString key).operator = .within)
    (value : RawValue) : block key value = [clauseOf key value] := by
  unfold block clauseOf
  simp only [within]
  exact Operator.clauses_within _ _

theorem block_null (key : String) : block key .null = [clauseOf key .null] :=
  Operator.clauses_of_ne_list _ _ (Operand.typed_null_ne_list _)

theorem block_single (key text : String) : block key (.single text) = [clauseOf key (.single text)] := by
  by_cases within : (FieldKey.ofString key).operator = .within
  · exact block_within within _
  · exact Operator.clauses_of_ne_list _ _
      (Operand.typed_text_ne_list (Operator.transform?_ne_inPieces within) text)

/-- Repeated texts give the clauses that they give one by one. -/
theorem block_multiple {key : String} (ne : (FieldKey.ofString key).operator ≠ .within)
    (texts : List String) :
    block key (.multiple texts) = texts.map fun text => clauseOf key (.single text) := by
  unfold block clauseOf
  simp only [Operand.ofRaw, Operand.typed_list (Operator.transform?_ne_inPieces ne),
    Operator.clauses_list ne, List.map_map]
  rfl

/-- A clause of a block comes from one operand: from a raw value that is no array, unless the
operator takes arrays as a whole. -/
theorem exists_clauseOf_of_mem_block {key : String} {value : RawValue} {clause : Clause}
    (member : clause ∈ block key value) :
    ∃ raw, ((FieldKey.ofString key).operator = .within ∨ ∀ texts, raw ≠ .multiple texts) ∧
      clause = clauseOf key raw := by
  by_cases within : (FieldKey.ofString key).operator = .within
  · rw [block_within within, List.mem_singleton] at member
    exact ⟨value, Or.inl within, member⟩
  cases value with
  | null =>
    rw [block_null, List.mem_singleton] at member
    exact ⟨.null, Or.inr fun _ => RawValue.noConfusion, member⟩
  | single text =>
    rw [block_single, List.mem_singleton] at member
    exact ⟨.single text, Or.inr fun _ => RawValue.noConfusion, member⟩
  | multiple texts =>
    rw [block_multiple within, List.mem_map] at member
    obtain ⟨text, _, rfl⟩ := member
    exact ⟨.single text, Or.inr fun _ => RawValue.noConfusion, rfl⟩

theorem field_of_mem_block {key : String} {value : RawValue} {clause : Clause}
    (member : clause ∈ block key value) : clause.field = (FieldKey.ofString key).field := by
  obtain ⟨raw, _, rfl⟩ := exists_clauseOf_of_mem_block member
  exact field_clauseOf key raw

/-! ## All blocks -/

/-- The entries that are not reserved, in their order. -/
def unreserved (settings : Settings) (parameters : Parameters) : List (String × RawValue) :=
  parameters.entries.filter fun entry => !settings.reserves entry.1

/-- The clauses of a filter are the blocks of its parameters, one after another. -/
theorem clauses_eq_flatMap (settings : Settings) (parameters : Parameters) :
    (ofParameters settings parameters).clauses =
      (unreserved settings parameters).flatMap fun entry => block entry.1 entry.2 :=
  clauses_ofParameters settings parameters

theorem blocks_of_entries {settings : Settings} {parameters left right : Parameters}
    (entries : parameters.entries = left.entries ++ right.entries) :
    blocks settings parameters = blocks settings left ++ blocks settings right := by
  unfold blocks
  rw [entries, List.filter_append, List.flatMap_append]

theorem ofClauses_eq_empty_iff {connective : Connective} {clauses : List Clause} :
    ofClauses connective clauses = .empty ↔ clauses = [] := by
  cases clauses with
  | nil => simp [ofClauses]
  | cons first rest => simp [ofClauses]

/-- The filter of a request is the blocks of its parameters in their order, reserved ones left out,
under one connective. A block is one clause, unless texts are repeated for an operator that does not
take them together: then it is one clause for each. Parameters that are put after others add their
clauses at the end. -/
theorem clauses_by_parameter (settings : Settings) (parameters : Parameters) :
    (ofParameters settings parameters).clauses =
        (parameters.entries.filter fun entry => !settings.reserves entry.1).flatMap
          (fun entry => block entry.1 entry.2) ∧
      (∀ key value, (FieldKey.ofString key).operator = .within ∨ (∀ texts, value ≠ .multiple texts) →
        block key value = [clauseOf key value]) ∧
      (∀ key texts, (FieldKey.ofString key).operator ≠ .within →
        block key (.multiple texts) = texts.map fun text => clauseOf key (.single text)) ∧
      (∀ key value, ∀ clause ∈ block key value, clause.field = (FieldKey.ofString key).field) ∧
      (ofParameters settings parameters = .empty ↔ blocks settings parameters = []) ∧
      (∀ first rest, blocks settings parameters = first :: rest →
        ofParameters settings parameters =
          .group (Connective.ofRaw? (parameters.get? settings.operatorKey)) first rest) ∧
      ∀ more : Parameters, (∀ key ∈ more.keys, key ∉ parameters.keys) →
        (ofParameters settings (parameters.extend more)).clauses =
          (ofParameters settings parameters).clauses ++ (ofParameters settings more).clauses := by
  refine ⟨clauses_ofParameters settings parameters, ?_, fun key texts ne => block_multiple ne texts,
    fun key value clause => field_of_mem_block, ofClauses_eq_empty_iff, ?_, ?_⟩
  · rintro key value (within | scalar)
    · exact block_within within value
    · cases value with
      | null => exact block_null key
      | single text => exact block_single key text
      | multiple texts => exact absurd rfl (scalar texts)
  · intro first rest all
    rw [ofParameters, all, ofClauses]
  · intro more disjoint
    rw [clauses_ofParameters, clauses_ofParameters, clauses_ofParameters,
      blocks_of_entries (Dict.entries_extend disjoint)]

/-- A repeated parameter and a list for `in`, after which another parameter is put. -/
theorem clauses_by_parameter_extend :
    let parameters := Parameters.ofPairs [("tag", "x"), ("_op", "or"), ("tag", "y"), ("id.in", "1,2")]
    let more := Parameters.ofPairs [("age.gte", "3"), ("page", "2")]
    (∀ key ∈ more.keys, key ∉ parameters.keys) ∧
      (ofParameters .builtin (parameters.extend more)).clauses =
        [clauseOf "tag" (.single "x"), clauseOf "tag" (.single "y"), clauseOf "id.in" (.single "1,2"),
          clauseOf "age.gte" (.single "3")] := by
  intro parameters more
  have disjoint : ∀ key ∈ more.keys, key ∉ parameters.keys := by decide
  obtain ⟨all, _, _, _, _, _, appended⟩ := clauses_by_parameter .builtin parameters
  refine ⟨disjoint, ?_⟩
  rw [appended more disjoint, all]
  decide

end Filter

end DocumentQuery
