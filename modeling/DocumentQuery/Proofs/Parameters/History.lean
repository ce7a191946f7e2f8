import DocumentQuery.Parameters
import DocumentQuery.Proofs.Dict
import Mathlib.Data.List.Induction

/-!
Parameters after a history of changes.

A change sets the value of a name or adds one more text to it. The names stay in the order in which
they first came (`Parameters.keys_after`). The value of a name is made of the last value that was set
under it and of the texts that were added since (`Parameters.get?_after`), so the changes of other
names do not matter. Collecting name-value pairs is the history that starts with no parameters and
sets no value; a JSON object that lists the texts of each name says the same as the pairs.
-/

namespace DocumentQuery

/-! ## Changes -/

/-- A change to the parameters of a request. -/
inductive Change
  /-- The name has this value from now on. -/
  | insert (name : String) (value : RawValue)
  /-- The name occurs once more, with this text. -/
  | append (name text : String)

/-- Changes in the order in which they are made. -/
abbrev History := List Change

namespace Change

/-- The name that a change is about. -/
def name : Change → String
  | insert name _ => name
  | append name _ => name

/-- The parameters after a change. -/
def apply (parameters : Parameters) : Change → Parameters
  | insert name value => Dict.insert parameters name value
  | append name text => parameters.append name text

/-- The value that a change sets under a name. -/
def valueAt? (name : String) : Change → Option RawValue
  | insert other value => if other = name then some value else none
  | append _ _ => none

/-- The text that a change adds under a name. -/
def textAt? (name : String) : Change → Option String
  | insert _ _ => none
  | append other text => if other = name then some text else none

/-- One more occurrence of a name, as a change. -/
def ofPair (pair : String × String) : Change :=
  append pair.1 pair.2

theorem valueAt?_of_ne {change : Change} {name : String} (ne : change.name ≠ name) :
    change.valueAt? name = none := by
  cases change with
  | insert other value => exact if_neg ne
  | append other text => rfl

theorem textAt?_of_ne {change : Change} {name : String} (ne : change.name ≠ name) :
    change.textAt? name = none := by
  cases change with
  | insert other value => rfl
  | append other text => exact if_neg ne

end Change

/-- The parameters after a history. -/
def Parameters.after (parameters : Parameters) (history : History) : Parameters :=
  history.foldl Change.apply parameters

/-! ## What a history says about a name -/

namespace History

/-- The value that was set last under a name. -/
def lastValue? (name : String) (history : History) : Option RawValue :=
  history.reverse.findSome? (Change.valueAt? name)

/-- The texts that were added under a name since a value was last set there, in their order. -/
def textsSince (name : String) (history : History) : List String :=
  ((history.reverse.takeWhile fun change => (change.valueAt? name).isNone).filterMap
    (Change.textAt? name)).reverse

theorem lastValue?_append (name : String) (history : History) (change : Change) :
    lastValue? name (history ++ [change]) = (change.valueAt? name).or (lastValue? name history) := by
  unfold lastValue?
  rw [List.reverse_append, List.findSome?_append]
  cases set : change.valueAt? name <;> simp [set]

theorem textsSince_append_of_value {name : String} {change : Change} {value : RawValue}
    (history : History) (set : change.valueAt? name = some value) :
    textsSince name (history ++ [change]) = [] := by
  simp [textsSince, set]

theorem textsSince_append {name : String} {change : Change} (history : History)
    (unset : change.valueAt? name = none) :
    textsSince name (history ++ [change]) =
      textsSince name history ++ (change.textAt? name).toList := by
  cases text : change.textAt? name <;> simp [textsSince, unset, text]

end History

/-- The value that a name has when texts are added to the value it had. -/
def RawValue.gathered : Option RawValue → List String → Option RawValue
  | value, [] => value
  | none, [text] => some (.single text)
  | none, texts => some (.multiple texts)
  | some .null, texts => some (.multiple ("null" :: texts))
  | some (.single text), texts => some (.multiple (text :: texts))
  | some (.multiple before), texts => some (.multiple (before ++ texts))

theorem RawValue.gathered_nil (value : Option RawValue) : gathered value [] = value := by
  unfold gathered
  rfl

/-- One more text makes of a gathered value what `Parameters.append` makes of it. -/
theorem RawValue.gathered_append (value : Option RawValue) (texts : List String) (text : String) :
    gathered value (texts ++ [text]) = some (match gathered value texts with
      | none => .single text
      | some before => before.push text) := by
  rcases value with _ | _ | _ | _ <;> rcases texts with _ | ⟨first, _ | ⟨second, rest⟩⟩ <;>
    simp [gathered, push, RawValue.texts]

/-! ## Values after a history -/

namespace Parameters

theorem after_append (parameters : Parameters) (history : History) (change : Change) :
    parameters.after (history ++ [change]) = change.apply (parameters.after history) := by
  unfold after
  rw [List.foldl_append]
  rfl

/-- The value of a name after a history: the last value that was set, or the one at the start, with
the texts that were added since. -/
theorem get?_after (parameters : Parameters) (history : History) (name : String) :
    (parameters.after history).get? name =
      RawValue.gathered ((History.lastValue? name history).or (parameters.get? name))
        (History.textsSince name history) := by
  -- The last change of the history either sets the value, or adds a text, or is about another name.
  induction history using List.reverseRecOn with
  | nil => exact (RawValue.gathered_nil _).symm
  | append_singleton history change ih =>
    rw [after_append, History.lastValue?_append]
    cases change with
    | insert other value =>
      by_cases same : other = name
      · have set : (Change.insert other value).valueAt? name = some value := if_pos same
        rw [set, History.textsSince_append_of_value history set, RawValue.gathered_nil, Change.apply,
          Dict.get?_insert, if_pos same.symm]
        rfl
      · have unset : (Change.insert other value).valueAt? name = none := if_neg same
        rw [unset, History.textsSince_append history unset, Change.apply, Dict.get?_insert,
          if_neg (Ne.symm same), ih]
        simp [Change.textAt?]
    | append other text =>
      have unset : (Change.append other text).valueAt? name = none := rfl
      rw [unset, History.textsSince_append history unset, Change.apply, get?_append]
      by_cases same : other = name
      · have added : (Change.append other text).textAt? name = some text := if_pos same
        rw [if_pos same.symm, added, Option.toList_some, RawValue.gathered_append, same, ih]
        rfl
      · have added : (Change.append other text).textAt? name = none := if_neg same
        rw [if_neg (Ne.symm same), added, ih]
        simp

end Parameters

/-! ## Changes of one name -/

namespace History

/-- The changes of a name. -/
def about (name : String) (history : History) : History :=
  history.filter fun change => change.name = name

theorem about_append (name : String) (history : History) (change : Change) :
    about name (history ++ [change]) =
      if change.name = name then about name history ++ [change] else about name history := by
  unfold about
  rw [List.filter_append]
  split <;> simp [*]

theorem lastValue?_about (name : String) (history : History) :
    lastValue? name (about name history) = lastValue? name history := by
  induction history using List.reverseRecOn with
  | nil => rfl
  | append_singleton history change ih =>
    rw [about_append, lastValue?_append]
    split
    · rw [lastValue?_append, ih]
    · next ne => rw [ih, Change.valueAt?_of_ne ne, Option.none_or]

theorem textsSince_about (name : String) (history : History) :
    textsSince name (about name history) = textsSince name history := by
  induction history using List.reverseRecOn with
  | nil => rfl
  | append_singleton history change ih =>
    rw [about_append]
    split
    · cases set : change.valueAt? name with
      | some value => rw [textsSince_append_of_value _ set, textsSince_append_of_value _ set]
      | none => rw [textsSince_append _ set, textsSince_append _ set, ih]
    · next ne =>
      rw [ih, textsSince_append _ (Change.valueAt?_of_ne ne), Change.textAt?_of_ne ne,
        Option.toList_none, List.append_nil]

end History

/-- The value of a name depends on its value at the start and on its own changes alone. -/
theorem Parameters.get?_after_congr {left right : Parameters} {before after : History}
    {name : String} (start : left.get? name = right.get? name)
    (changes : History.about name before = History.about name after) :
    (left.after before).get? name = (right.after after).get? name := by
  rw [get?_after, get?_after, ← History.lastValue?_about name before,
    ← History.lastValue?_about name after, ← History.textsSince_about name before,
    ← History.textsSince_about name after, start, changes]

/-! ## Names after a history -/

namespace Parameters

theorem keys_apply (parameters : Parameters) (change : Change) :
    (change.apply parameters).keys =
      if change.name ∈ parameters.keys then parameters.keys
      else parameters.keys ++ [change.name] := by
  cases change with
  | insert name value => exact Dict.keys_insert parameters name value
  | append name text => exact keys_append parameters name text

/-- The names after a history: those at the start and those that changes brought, each at the place
where it first came. -/
theorem keys_after (parameters : Parameters) (history : History) :
    (parameters.after history).keys =
      (parameters.keys ++ history.map Change.name).eraseDups := by
  induction history using List.reverseRecOn with
  | nil =>
    have distinct : parameters.keys.Nodup := parameters.nodup
    rw [List.map_nil, List.append_nil, eraseDups_of_nodup distinct]
    rfl
  | append_singleton history change ih =>
    rw [after_append, keys_apply, ih, List.map_append, ← List.append_assoc, List.map_singleton,
      eraseDups_append_singleton]
    simp only [List.mem_eraseDups]

end Parameters

end DocumentQuery
