import DocumentQuery.Proofs.Parameters.History

/-!
Parameters from name-value pairs and from a JSON object.

Pairs are collected one after another, so what they give is what a history of added texts gives. The
object that lists each of their names once, at the place where it first came, with the text or the
texts of the name, gives the same parameters (`Parameters.ofJson_objectOfPairs`).
-/

namespace DocumentQuery

/-! ## Pairs as a history -/

/-- The names of pairs, each at the place where it first came. -/
def namesOf (pairs : List (String × String)) : List String :=
  (pairs.map Prod.fst).eraseDups

/-- The texts that pairs give a name, in their order. -/
def textsOf (name : String) (pairs : List (String × String)) : List String :=
  (pairs.filter fun pair => pair.1 = name).map Prod.snd

theorem textsOf_append (name : String) (pairs : List (String × String)) (pair : String × String) :
    textsOf name (pairs ++ [pair]) =
      textsOf name pairs ++ ((Change.ofPair pair).textAt? name).toList := by
  unfold textsOf
  rw [List.filter_append, List.map_append]
  congr 1
  by_cases same : pair.1 = name <;> simp [Change.ofPair, Change.textAt?, same]

theorem textsOf_ne_nil {name : String} {pairs : List (String × String)}
    (member : name ∈ namesOf pairs) : textsOf name pairs ≠ [] := by
  unfold namesOf at member
  rw [List.mem_eraseDups, List.mem_map] at member
  obtain ⟨pair, inside, rfl⟩ := member
  unfold textsOf
  rw [Ne, List.map_eq_nil_iff, List.filter_eq_nil_iff]
  intro none
  exact none pair inside (decide_eq_true rfl)

namespace History

/-- Pairs set no value. -/
theorem lastValue?_ofPairs (name : String) (pairs : List (String × String)) :
    lastValue? name (pairs.map Change.ofPair) = none := by
  induction pairs using List.reverseRecOn with
  | nil => rfl
  | append_singleton pairs pair ih =>
    rw [List.map_append, List.map_singleton, lastValue?_append, ih]
    rfl

theorem textsSince_ofPairs (name : String) (pairs : List (String × String)) :
    textsSince name (pairs.map Change.ofPair) = textsOf name pairs := by
  induction pairs using List.reverseRecOn with
  | nil => rfl
  | append_singleton pairs pair ih =>
    have unset : (Change.ofPair pair).valueAt? name = none := rfl
    rw [List.map_append, List.map_singleton, textsSince_append _ unset, ih, textsOf_append]

end History

/-- A value that is one text or several. -/
def RawValue.ofTexts : List String → RawValue
  | [text] => .single text
  | texts => .multiple texts

theorem RawValue.gathered_none {texts : List String} (nonempty : texts ≠ []) :
    gathered none texts = some (ofTexts texts) := by
  rcases texts with _ | ⟨first, _ | ⟨second, rest⟩⟩
  · exact absurd rfl nonempty
  · rfl
  · rfl

namespace Parameters

theorem ofPairs_eq_after (pairs : List (String × String)) :
    ofPairs pairs = after Dict.empty (pairs.map Change.ofPair) := by
  unfold ofPairs after
  rw [List.foldl_map]
  rfl

theorem keys_ofPairs (pairs : List (String × String)) : (ofPairs pairs).keys = namesOf pairs := by
  rw [ofPairs_eq_after, keys_after, List.map_map]
  rfl

theorem get?_ofPairs (pairs : List (String × String)) (name : String) :
    (ofPairs pairs).get? name = RawValue.gathered none (textsOf name pairs) := by
  rw [ofPairs_eq_after, get?_after, History.lastValue?_ofPairs, History.textsSince_ofPairs]
  rfl

/-- The entries that pairs give: their names, each with its text or its texts. -/
theorem entries_ofPairs (pairs : List (String × String)) :
    (ofPairs pairs).entries =
      (namesOf pairs).map fun name => (name, RawValue.ofTexts (textsOf name pairs)) := by
  have values : ∀ name ∈ (ofPairs pairs).keys,
      (ofPairs pairs).get? name = some (RawValue.ofTexts (textsOf name pairs)) := by
    intro name member
    rw [keys_ofPairs] at member
    rw [get?_ofPairs, RawValue.gathered_none (textsOf_ne_nil member)]
  rw [Dict.entries_eq_map_keys values, keys_ofPairs]

end Parameters

/-! ## The object of pairs -/

/-- A JSON value that is one text or an array of several. -/
def Json.ofTexts : List String → Json
  | [text] => .string text
  | texts => .array (texts.map .string)

/-- The JSON object that lists each name of pairs once, with its text or its texts. -/
def Json.objectOfPairs (pairs : List (String × String)) : Json :=
  .object ((namesOf pairs).map fun name => (name, Json.ofTexts (textsOf name pairs)))

namespace Json

theorem mapM_scalarText? (texts : List String) :
    (texts.map Json.string).mapM scalarText? = some texts := by
  induction texts with
  | nil => rfl
  | cons text texts ih =>
    rw [List.map_cons, List.mapM_cons, ih]
    rfl

theorem rawValue?_ofTexts (texts : List String) :
    (ofTexts texts).rawValue? = some (RawValue.ofTexts texts) := by
  unfold ofTexts RawValue.ofTexts
  split
  · rfl
  · rw [rawValue?, mapM_scalarText?, Option.map_some]

end Json

namespace Parameters

theorem rawValues_map {value : String → Json} {raw : String → RawValue} (names : List String)
    (each : ∀ name, (value name).rawValue? = some (raw name)) :
    rawValues (names.map fun name => (name, value name)) =
      .ok (names.map fun name => (name, raw name)) := by
  induction names with
  | nil => rfl
  | cons name names ih =>
    rw [List.map_cons, rawValues, each, ih]
    rfl

/-- The object of pairs gives the parameters that collecting the pairs gives. -/
theorem ofJson_objectOfPairs (pairs : List (String × String)) :
    ofJson (.objectOfPairs pairs) = .ok (ofPairs pairs) := by
  have distinct : (namesOf pairs).Nodup := by
    rw [← keys_ofPairs]
    exact (ofPairs pairs).nodup
  have raw := rawValues_map (namesOf pairs) fun name =>
    Json.rawValue?_ofTexts (textsOf name pairs)
  unfold Json.objectOfPairs
  rw [ofJson, Dict.entries_ofList_map distinct, raw]
  show Except.ok (Dict.ofList _) = _
  congr 1
  apply Dict.ext
  rw [Dict.entries_ofList_map distinct, entries_ofPairs]

/-! ## The history of a request -/

/-- After any history each name stands once, at the place where it first came. Its value is the one
that was set last, or the one it had at the start, with the texts that were added since: an absent
name has one text as it is and several as a list, a name without a value counts as the text `null`,
and other values keep their texts in front. The changes of other names play no part. So collecting
pairs gives the same as a JSON object with each name once, with its text or all its texts. -/
theorem history_name_by_name (parameters : Parameters) (history : History) :
    (parameters.after history).keys.Nodup ∧
      (parameters.after history).keys =
        (parameters.keys ++ history.map Change.name).eraseDups ∧
      (parameters.after history).size = (parameters.after history).keys.length ∧
      (∀ name, (parameters.after history).get? name =
        RawValue.gathered ((History.lastValue? name history).or (parameters.get? name))
          (History.textsSince name history)) ∧
      (∀ name (other : Parameters) (others : History),
        other.get? name = parameters.get? name →
          History.about name others = History.about name history →
            (other.after others).get? name = (parameters.after history).get? name) ∧
      ∀ pairs, ofJson (.objectOfPairs pairs) = .ok (ofPairs pairs) :=
  ⟨(parameters.after history).nodup, keys_after parameters history, Dict.size_eq_length_keys _,
    get?_after parameters history, fun _ _ _ => get?_after_congr, ofJson_objectOfPairs⟩

/-- A text added to an explicit null, and the same under that name after another start and without
the changes in between. -/
theorem history_name_by_name_null :
    let start : Parameters := Dict.ofList [("a", .single "1"), ("status", .null)]
    let other : Parameters := Dict.ofList [("status", .null)]
    let history : History := [.append "b" "x", .append "status" "open", .insert "a" (.multiple [])]
    let others : History := [.append "status" "open"]
    other.get? "status" = start.get? "status" ∧
      History.about "status" others = History.about "status" history ∧
      (start.after history).keys = ["a", "status", "b"] ∧
      (start.after history).get? "status" = some (.multiple ["null", "open"]) ∧
      (other.after others).get? "status" = some (.multiple ["null", "open"]) := by
  intro start other history others
  obtain ⟨_, keys, _, values, own, _⟩ := history_name_by_name start history
  have value := values "status"
  have same := own "status" other others rfl rfl
  refine ⟨rfl, rfl, keys.trans ?_, value, same.trans value⟩
  decide

end Parameters

end DocumentQuery
