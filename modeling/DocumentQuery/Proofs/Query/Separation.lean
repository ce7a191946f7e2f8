import DocumentQuery.Proofs.Filter.Blocks
import DocumentQuery.Proofs.Settings.Check
import DocumentQuery.Query

/-!
Which parameters each part of a query looks at.

The pagination looks at two parameters, the sort order and the projection at one each, the clauses
of the filter at those that are not reserved, and its connective at one. Under accepted settings the
five reserved names differ, so a change to the entry of one of them shows in one part only.
-/

namespace DocumentQuery

variable {settings : Settings} {left right : Parameters}

theorem Parameters.scalar?_congr {key : String} (same : left.get? key = right.get? key) :
    left.scalar? key = right.scalar? key := by
  rw [scalar?, scalar?, same]

/-! ## What a part looks at -/

theorem Pagination.ofParameters_congr (page : left.get? settings.pageKey = right.get? settings.pageKey)
    (limit : left.get? settings.limitKey = right.get? settings.limitKey) :
    ofParameters settings left = ofParameters settings right := by
  unfold ofParameters
  rw [Parameters.scalar?_congr page, Parameters.scalar?_congr limit]

theorem SortOrder.ofParameters?_congr
    (same : left.get? settings.sortKey = right.get? settings.sortKey) :
    ofParameters? settings left = ofParameters? settings right := by
  unfold ofParameters?
  rw [Parameters.scalar?_congr same]

theorem Projection.ofParameters?_congr
    (same : left.get? settings.fieldsKey = right.get? settings.fieldsKey) :
    ofParameters? settings left = ofParameters? settings right := by
  unfold ofParameters?
  rw [Parameters.scalar?_congr same]

namespace Filter

theorem blocks_congr (same : unreserved settings left = unreserved settings right) :
    blocks settings left = blocks settings right := by
  unfold unreserved at same
  unfold blocks
  rw [same]

theorem ofParameters_congr (same : unreserved settings left = unreserved settings right)
    (connective : left.get? settings.operatorKey = right.get? settings.operatorKey) :
    ofParameters settings left = ofParameters settings right := by
  unfold ofParameters
  rw [blocks_congr same, connective]

theorem unreserved_eq_of_without_eq {key : String} (reserved : settings.reserves key = true)
    (same : left.without key = right.without key) :
    unreserved settings left = unreserved settings right := by
  have drops : (!settings.reserves key) = false := by rw [reserved, Bool.not_true]
  exact Dict.filter_entries_eq_of_without_eq (fun name => !settings.reserves name) drops same

end Filter

/-! ## Requests that differ in one reserved parameter -/

section OneEntry

variable {key : String} (same : left.without key = right.without key)

include same

theorem Pagination.ofParameters_eq_of_without_eq (page : settings.pageKey ≠ key)
    (limit : settings.limitKey ≠ key) : ofParameters settings left = ofParameters settings right :=
  ofParameters_congr (Dict.get?_eq_of_without_eq same page) (Dict.get?_eq_of_without_eq same limit)

theorem SortOrder.ofParameters?_eq_of_without_eq (sort : settings.sortKey ≠ key) :
    ofParameters? settings left = ofParameters? settings right :=
  ofParameters?_congr (Dict.get?_eq_of_without_eq same sort)

theorem Projection.ofParameters?_eq_of_without_eq (fields : settings.fieldsKey ≠ key) :
    ofParameters? settings left = ofParameters? settings right :=
  ofParameters?_congr (Dict.get?_eq_of_without_eq same fields)

theorem Filter.ofParameters_eq_of_without_eq (reserved : settings.reserves key = true)
    (operator : settings.operatorKey ≠ key) :
    ofParameters settings left = ofParameters settings right :=
  ofParameters_congr (unreserved_eq_of_without_eq reserved same)
    (Dict.get?_eq_of_without_eq same operator)

end OneEntry

/-! ## Separation -/

namespace Query

/-- Two requests that agree where a part looks have that part in common. So when they differ in the
entry of one reserved name only, by its value, by its place or by having none, then only the part it
is for can differ, and for the name that chooses a connective only the connective. -/
theorem parts_look_at_own_names (valid : settings.check = .ok ()) (left right : Parameters) :
    (left.get? settings.pageKey = right.get? settings.pageKey →
      left.get? settings.limitKey = right.get? settings.limitKey →
        (ofParameters settings left).pagination = (ofParameters settings right).pagination) ∧
      (left.get? settings.sortKey = right.get? settings.sortKey →
        (ofParameters settings left).sort = (ofParameters settings right).sort) ∧
      (left.get? settings.fieldsKey = right.get? settings.fieldsKey →
        (ofParameters settings left).fields = (ofParameters settings right).fields) ∧
      (Filter.unreserved settings left = Filter.unreserved settings right →
        (ofParameters settings left).filter.clauses = (ofParameters settings right).filter.clauses ∧
        (left.get? settings.operatorKey = right.get? settings.operatorKey →
          (ofParameters settings left).filter = (ofParameters settings right).filter)) ∧
      (left.without settings.pageKey = right.without settings.pageKey ∨
          left.without settings.limitKey = right.without settings.limitKey →
        ∃ pagination, ofParameters settings right =
          { ofParameters settings left with pagination := pagination }) ∧
      (left.without settings.sortKey = right.without settings.sortKey →
        ∃ sort, ofParameters settings right = { ofParameters settings left with sort := sort }) ∧
      (left.without settings.fieldsKey = right.without settings.fieldsKey →
        ∃ fields, ofParameters settings right = { ofParameters settings left with fields := fields }) ∧
      (left.without settings.operatorKey = right.without settings.operatorKey →
        ∃ connective, ofParameters settings right =
          { ofParameters settings left with
            filter := .ofClauses connective (ofParameters settings left).filter.clauses }) := by
  obtain ⟨pageLimit, pageSort, pageOperator, pageFields, limitSort, limitOperator, limitFields,
    sortOperator, sortFields, operatorFields⟩ := Settings.keys_ne_of_check valid
  refine ⟨Pagination.ofParameters_congr, SortOrder.ofParameters?_congr,
    Projection.ofParameters?_congr, fun same => ⟨?_, Filter.ofParameters_congr same⟩, ?_, ?_, ?_, ?_⟩
  · exact (Filter.clauses_ofParameters settings left).trans
      ((Filter.blocks_congr same).trans (Filter.clauses_ofParameters settings right).symm)
  · rintro (same | same)
    · have filter := Filter.ofParameters_eq_of_without_eq same
        (Settings.reserves_iff.mpr (Or.inl rfl)) pageOperator.symm
      have sort := SortOrder.ofParameters?_eq_of_without_eq same pageSort.symm
      have fields := Projection.ofParameters?_eq_of_without_eq same pageFields.symm
      refine ⟨Pagination.ofParameters settings right, ?_⟩
      simp only [ofParameters, filter, sort, fields]
    · have filter := Filter.ofParameters_eq_of_without_eq same
        (Settings.reserves_iff.mpr (Or.inr (Or.inl rfl))) limitOperator.symm
      have sort := SortOrder.ofParameters?_eq_of_without_eq same limitSort.symm
      have fields := Projection.ofParameters?_eq_of_without_eq same limitFields.symm
      refine ⟨Pagination.ofParameters settings right, ?_⟩
      simp only [ofParameters, filter, sort, fields]
  · intro same
    have filter := Filter.ofParameters_eq_of_without_eq same
      (Settings.reserves_iff.mpr (Or.inr (Or.inr (Or.inl rfl)))) sortOperator.symm
    have pagination := Pagination.ofParameters_eq_of_without_eq same pageSort limitSort
    have fields := Projection.ofParameters?_eq_of_without_eq same sortFields.symm
    refine ⟨SortOrder.ofParameters? settings right, ?_⟩
    simp only [ofParameters, filter, pagination, fields]
  · intro same
    have filter := Filter.ofParameters_eq_of_without_eq same
      (Settings.reserves_iff.mpr (Or.inr (Or.inr (Or.inr (Or.inr rfl))))) operatorFields
    have pagination := Pagination.ofParameters_eq_of_without_eq same pageFields limitFields
    have sort := SortOrder.ofParameters?_eq_of_without_eq same sortFields
    refine ⟨Projection.ofParameters? settings right, ?_⟩
    simp only [ofParameters, filter, pagination, sort]
  · intro same
    have clauses := Filter.blocks_congr (Filter.unreserved_eq_of_without_eq
      (Settings.reserves_iff.mpr (Or.inr (Or.inr (Or.inr (Or.inl rfl))))) same)
    have pagination := Pagination.ofParameters_eq_of_without_eq same pageOperator limitOperator
    have sort := SortOrder.ofParameters?_eq_of_without_eq same sortOperator
    have fields := Projection.ofParameters?_eq_of_without_eq same operatorFields.symm
    refine ⟨Connective.ofRaw? (right.get? settings.operatorKey), ?_⟩
    simp only [ofParameters, Filter.ofParameters, Filter.clauses_ofClauses, clauses, pagination, sort,
      fields]

/-- A page that stands elsewhere and has another value, and a connective that is taken out. -/
theorem parts_look_at_own_names_page_moved :
    let left := Parameters.ofPairs [("page", "2"), ("tag", "x"), ("_op", "or"), ("sort", "tag DESC")]
    let right := Parameters.ofPairs [("tag", "x"), ("_op", "or"), ("page", "7"), ("sort", "tag DESC")]
    Settings.builtin.check = .ok () ∧
      left.without "page" = right.without "page" ∧
      (∃ pagination, ofParameters .builtin right =
        { ofParameters .builtin left with pagination := pagination }) ∧
      (left.without "_op").without "_op" = left.without "_op" ∧
      ∃ connective, ofParameters .builtin (left.without "_op") =
        { ofParameters .builtin left with
          filter := .ofClauses connective (ofParameters .builtin left).filter.clauses } := by
  intro left right
  have valid : Settings.builtin.check = .ok () := rfl
  have moved : left.without "page" = right.without "page" := by decide
  have out := Dict.without_without left "_op"
  obtain ⟨_, _, _, _, page, _, _, _⟩ := parts_look_at_own_names valid left right
  obtain ⟨_, _, _, _, _, _, _, operator⟩ :=
    parts_look_at_own_names valid left (left.without "_op")
  exact ⟨valid, moved, page (Or.inl moved), out, operator out.symm⟩

end Query

end DocumentQuery
