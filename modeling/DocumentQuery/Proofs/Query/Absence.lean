import DocumentQuery.Proofs.Query.Separation

/-!
What a reserved parameter gives, and when it gives nothing.

Every part of a query that is read from a reserved parameter is read from one text, and the empty
text gives what no text gives (`Query.ofParameters_eq_of_given`). So several texts are as good as one
with commas between them, and an entry without a text, or with an empty one, is as good as no entry.
-/

namespace DocumentQuery

/-! ## The text of a reserved parameter -/

/-- The text that a raw value gives to a reserved parameter. An empty text counts as none. -/
def RawValue.given? (value : RawValue) : Option String :=
  value.scalar?.filter (· ≠ "")

/-- The text that a request gives under a reserved name. -/
def Parameters.given? (parameters : Parameters) (name : String) : Option String :=
  (parameters.get? name).bind RawValue.given?

namespace Parameters

theorem given?_eq_filter (parameters : Parameters) (name : String) :
    parameters.given? name = (parameters.scalar? name).filter (· ≠ "") := by
  unfold given? scalar?
  cases parameters.get? name <;> rfl

theorem given?_eq_some_iff {parameters : Parameters} {name text : String} (ne : text ≠ "") :
    parameters.given? name = some text ↔ parameters.scalar? name = some text := by
  rw [given?_eq_filter, Option.filter_eq_some_iff]
  simp [ne]

/-- What a part makes of the given text is nothing where there is no text or an empty one. -/
theorem map_given? {α : Type} (parameters : Parameters) (name : String) (make : String → α) :
    (parameters.given? name).map make =
      match parameters.scalar? name with
      | none => none
      | some text => if text = "" then none else some (make text) := by
  rw [given?_eq_filter]
  cases parameters.scalar? name with
  | none => rfl
  | some text => by_cases empty : text = "" <;> simp [empty, Option.filter]

end Parameters

/-! ## Parts of a query by the texts they are read from -/

theorem Pagination.number_filter (value : Option String) (default : Nat) :
    number (value.filter (· ≠ "")) default = number value default := by
  cases value with
  | none => rfl
  | some text =>
    by_cases empty : text = ""
    · subst empty
      rfl
    · rw [Option.filter_some_pos (by simpa using empty)]

theorem Pagination.ofParameters_eq_given (settings : Settings) (parameters : Parameters) :
    ofParameters settings parameters =
      if parameters.given? settings.limitKey = some "null" then none
      else some (ofPage (number (parameters.given? settings.pageKey) settings.defaultPage)
        (number (parameters.given? settings.limitKey) settings.defaultLimit)) := by
  have null : parameters.given? settings.limitKey = some "null" ↔
      parameters.scalar? settings.limitKey = some "null" :=
    Parameters.given?_eq_some_iff (by decide)
  unfold ofParameters
  simp only [null]
  rw [Parameters.given?_eq_filter, Parameters.given?_eq_filter, number_filter, number_filter]

theorem SortOrder.ofParameters?_eq_given (settings : Settings) (parameters : Parameters) :
    ofParameters? settings parameters = (parameters.given? settings.sortKey).map fun text =>
      ofTerms ((Text.pieces ',' text).map SortTerm.parse) := by
  rw [Parameters.map_given?]
  rfl

theorem Projection.ofParameters?_eq_given (settings : Settings) (parameters : Parameters) :
    ofParameters? settings parameters = (parameters.given? settings.fieldsKey).map fun text =>
      ofList (Text.trimmedPieces ',' text) := by
  rw [Parameters.map_given?]
  rfl

theorem Connective.ofRaw?_eq_given (parameters : Parameters) (name : String) :
    ofRaw? (parameters.get? name) = if parameters.given? name = some "or" then any else all := by
  have or : parameters.given? name = some "or" ↔ parameters.scalar? name = some "or" :=
    Parameters.given?_eq_some_iff (by decide)
  simp only [or]
  rfl

namespace Query

variable {settings : Settings} {left right : Parameters}

/-- A query depends on the entries that are not reserved and on the texts under the reserved
names. -/
theorem ofParameters_eq_of_given
    (unreserved : Filter.unreserved settings left = Filter.unreserved settings right)
    (given : ∀ key, settings.reserves key = true → left.given? key = right.given? key) :
    ofParameters settings left = ofParameters settings right := by
  obtain ⟨ownPage, ownLimit, ownSort, ownConnective, ownFields⟩ := settings.reserves_keys
  unfold ofParameters Filter.ofParameters
  rw [Pagination.ofParameters_eq_given, Pagination.ofParameters_eq_given,
    SortOrder.ofParameters?_eq_given, SortOrder.ofParameters?_eq_given,
    Projection.ofParameters?_eq_given, Projection.ofParameters?_eq_given,
    Connective.ofRaw?_eq_given, Connective.ofRaw?_eq_given, Filter.blocks_congr unreserved,
    given _ ownPage, given _ ownLimit, given _ ownSort, given _ ownConnective, given _ ownFields]

/-- Requests that differ in the entry of one reserved name only ask for the same when the text under
that name is the same. -/
theorem ofParameters_eq_of_without_eq {key : String} (reserved : settings.reserves key = true)
    (same : left.without key = right.without key) (given : left.given? key = right.given? key) :
    ofParameters settings left = ofParameters settings right := by
  apply ofParameters_eq_of_given (Filter.unreserved_eq_of_without_eq reserved same)
  intro other _
  by_cases here : other = key
  · rw [here, given]
  · unfold Parameters.given?
    rw [Dict.get?_eq_of_without_eq same here]

/-- Several texts under a reserved name ask for the same as one text in which they stand with commas
between them. An entry of a reserved name that gives no text, the empty text, no texts or one empty
text asks for the same as none, wherever it stands. -/
theorem reserved_name_given_as_text (settings : Settings) (parameters : Parameters) {key : String}
    (reserved : settings.reserves key = true) :
    (∀ texts, parameters.get? key = some (.multiple texts) →
        ofParameters settings (parameters.insert key (.single (Text.joined ',' texts))) =
          ofParameters settings parameters) ∧
      ∀ value ∈ [RawValue.null, .single "", .multiple [], .multiple [""]],
        parameters.get? key = some value →
          ofParameters settings (parameters.without key) = ofParameters settings parameters := by
  constructor
  · intro texts found
    apply ofParameters_eq_of_without_eq reserved (Dict.without_insert parameters key _)
    unfold Parameters.given?
    rw [Dict.get?_insert, if_pos rfl, found]
    rfl
  · intro value empty found
    have nothing : value.given? = none := by
      simp only [List.mem_cons, List.not_mem_nil, or_false] at empty
      rcases empty with rfl | rfl | rfl | rfl <;> rfl
    apply ofParameters_eq_of_without_eq reserved (Dict.without_without parameters key)
    unfold Parameters.given?
    rw [Dict.get?_without_self, found, Option.bind_some, nothing]
    rfl

/-- A limit given in two texts, neither of them a numeral of the whole, and a list without fields. -/
theorem reserved_name_given_as_text_limit :
    let parameters : Parameters := Dict.ofList
      [("_fields", .multiple []), ("tag", .multiple ["x", "y"]), ("limit", .multiple ["1", "5"])]
    Settings.builtin.reserves "limit" = true ∧ Settings.builtin.reserves "_fields" = true ∧
      ofParameters .builtin (parameters.insert "limit" (.single "1,5")) =
        ofParameters .builtin parameters ∧
      ofParameters .builtin (parameters.without "_fields") = ofParameters .builtin parameters := by
  intro parameters
  have limit : Settings.builtin.reserves "limit" = true := by decide
  have fields : Settings.builtin.reserves "_fields" = true := by decide
  obtain ⟨joined, _⟩ := reserved_name_given_as_text .builtin parameters limit
  obtain ⟨_, removed⟩ := reserved_name_given_as_text .builtin parameters fields
  exact ⟨limit, fields, joined ["1", "5"] rfl, removed (.multiple []) (by simp) rfl⟩

end Query

end DocumentQuery
