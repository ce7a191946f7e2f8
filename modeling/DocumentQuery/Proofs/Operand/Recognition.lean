import DocumentQuery.Operand.Interpretation
import DocumentQuery.Proofs.Calendar.Grammar
import DocumentQuery.Proofs.Text.Integer

/-!
What a text can become.

`Operand.ofText_cases` lists the results: no value and the truth values for their literals, a date
for a text that spells an instant, and for all other texts the text itself. From it follow that a
scalar text never becomes a list, and that a second look at an operand finds nothing new
(`Operand.interpret_interpret`). A text of an instant is no whole number
(`Instant.not_spellsInteger`), and of the whole numbers those of 64 bits are read
(`Operand.wordOfText?_eq_some_iff`).
-/

namespace DocumentQuery

/-- The instant that a text spells as a timestamp or, for the start of the day, as a date. -/
def Instant.ofText? (text : String) : Option Instant :=
  (Timestamp.read? text.toList).or ((Date.read? text.toList).map fun date => ofDay date.number)

namespace Operand

/-! ## One text -/

theorem ofText_of_ne {text : String} (null : text ≠ "null") (isTrue : text ≠ "true")
    (isFalse : text ≠ "false") :
    ofText text = match Instant.ofText? text with
      | some instant => .date instant
      | none => .text text := by
  unfold ofText recognise Instant.ofText?
  simp only [Recogniser.all, Recogniser.null, Recogniser.boolean, Recogniser.timestamp,
    Recogniser.date, List.findSome?_cons, if_neg null, if_neg isTrue, if_neg isFalse]
  cases Timestamp.read? text.toList with
  | some instant => rfl
  | none =>
    cases Date.read? text.toList with
    | some date => rfl
    | none => rfl

/-- The literals spell no instant. -/
theorem instantOfText?_literal : Instant.ofText? "null" = none ∧ Instant.ofText? "true" = none ∧
    Instant.ofText? "false" = none := by
  decide

/-- All that a text can become, and when. -/
theorem ofText_cases (text : String) :
    (text = "null" ∧ ofText text = .null) ∨
      (text = "true" ∧ ofText text = .bool true) ∨
      (text = "false" ∧ ofText text = .bool false) ∨
      (∃ instant, Instant.ofText? text = some instant ∧ ofText text = .date instant) ∨
      (Instant.ofText? text = none ∧ ofText text = .text text) := by
  by_cases null : text = "null"
  · subst null
    exact Or.inl ⟨rfl, rfl⟩
  by_cases isTrue : text = "true"
  · subst isTrue
    exact Or.inr (Or.inl ⟨rfl, rfl⟩)
  by_cases isFalse : text = "false"
  · subst isFalse
    exact Or.inr (Or.inr (Or.inl ⟨rfl, rfl⟩))
  have read := ofText_of_ne null isTrue isFalse
  cases spelled : Instant.ofText? text with
  | some instant =>
    rw [spelled] at read
    exact Or.inr (Or.inr (Or.inr (Or.inl ⟨instant, rfl, read⟩)))
  | none =>
    rw [spelled] at read
    exact Or.inr (Or.inr (Or.inr (Or.inr ⟨rfl, read⟩)))

/-- A text becomes a date when it spells an instant, and only then. -/
theorem ofText_eq_date_iff {text : String} {instant : Instant} :
    ofText text = .date instant ↔ Instant.ofText? text = some instant := by
  obtain ⟨nullInstant, trueInstant, falseInstant⟩ := instantOfText?_literal
  rcases ofText_cases text with ⟨rfl, read⟩ | ⟨rfl, read⟩ | ⟨rfl, read⟩ |
    ⟨found, spelled, read⟩ | ⟨spelled, read⟩
  · simp [read, nullInstant]
  · simp [read, trueInstant]
  · simp [read, falseInstant]
  · simp [read, spelled]
  · simp [read, spelled]

theorem ofText_ne_list (text : String) (items : List Operand) : ofText text ≠ .list items := by
  intro list
  rcases ofText_cases text with ⟨_, read⟩ | ⟨_, read⟩ | ⟨_, read⟩ | ⟨_, _, read⟩ | ⟨_, read⟩ <;>
    · rw [read] at list
      cases list

theorem interpret_texts (texts : List String) :
    interpret (.list (texts.map .text)) = .list (texts.map ofText) := by
  rw [interpret, interpretList_eq_map, List.map_map]
  rfl

/-! ## A second look -/

theorem interpret_ofText (text : String) : interpret (ofText text) = ofText text := by
  rcases ofText_cases text with ⟨_, read⟩ | ⟨_, read⟩ | ⟨_, read⟩ | ⟨_, _, read⟩ | ⟨_, read⟩
  · rw [read]
    rfl
  · rw [read]
    rfl
  · rw [read]
    rfl
  · rw [read]
    rfl
  · rw [read, interpret, read]

mutual

/-- A text that has been left as it is spells nothing else. -/
theorem interpret_interpret (operand : Operand) : interpret (interpret operand) = interpret operand := by
  cases operand with
  | text value => rw [interpret, interpret_ofText]
  | list items => rw [interpret, interpret, interpretList_interpretList items]
  | null => rfl
  | bool value => rfl
  | int value => rfl
  | date value => rfl

theorem interpretList_interpretList (items : List Operand) :
    interpretList (interpretList items) = interpretList items := by
  cases items with
  | nil => rfl
  | cons item items =>
    rw [interpretList, interpretList, interpret_interpret item, interpretList_interpretList items]

end

theorem interpret_typed (transform : Option Transform) (operand : Operand) :
    interpret (typed transform operand) = typed transform operand := by
  cases transform with
  | none => exact interpret_interpret operand
  | some transform => exact interpret_interpret (transform.run operand)

end Operand

/-! ## Whole numbers -/

/-- A text in which a date is read begins with the digits of a year and a hyphen. -/
theorem Timestamp.takeDate?_hyphen {text rest : List Char} {date : Date}
    (taken : takeDate? text = some (date, rest)) :
    ∃ digits after, text = digits ++ '-' :: after ∧ digits ≠ [] ∧ ∀ c ∈ digits, c.isDigit = true := by
  unfold takeDate? at taken
  simp only [Option.bind_eq_bind, Option.bind_eq_some_iff, Prod.exists, expect?_eq_some_iff] at taken
  obtain ⟨year, _, years, afterHyphen, rfl, _⟩ := taken
  obtain ⟨digits, length, all, rfl, _⟩ := Text.takeNumber?_eq_some_iff.mp years
  refine ⟨digits, afterHyphen, rfl, ?_, all⟩
  rintro rfl
  cases length

theorem Instant.hyphen_of_ofText? {text : String} {instant : Instant}
    (spelled : ofText? text = some instant) :
    ∃ digits after, text.toList = digits ++ '-' :: after ∧ digits ≠ [] ∧
      ∀ c ∈ digits, c.isDigit = true := by
  unfold ofText? at spelled
  rcases Option.or_eq_some_iff.mp spelled with timestamp | ⟨_, day⟩
  · unfold Timestamp.read? at timestamp
    simp only [Option.bind_eq_bind, Option.bind_eq_some_iff, Prod.exists] at timestamp
    obtain ⟨date, rest, taken, _⟩ := timestamp
    exact Timestamp.takeDate?_hyphen taken
  · obtain ⟨_, read, _⟩ := Option.map_eq_some_iff.mp day
    unfold Date.read? at read
    simp only [Option.bind_eq_bind, Option.bind_eq_some_iff, Prod.exists] at read
    obtain ⟨date, rest, taken, _⟩ := read
    exact Timestamp.takeDate?_hyphen taken

/-- No text spells both an instant and a whole number. -/
theorem Instant.not_spellsInteger {text : String} {instant : Instant}
    (spelled : ofText? text = some instant) (n : Int) : ¬ Text.SpellsInteger text.toList n := by
  obtain ⟨digits, after, begins, nonempty, all⟩ := hyphen_of_ofText? spelled
  obtain ⟨c, digits, rfl⟩ := List.exists_cons_of_ne_nil nonempty
  intro spells
  rw [begins] at spells
  have blank := spells.blank_before_hyphen c List.mem_cons_self
  rw [Text.isBlank_of_isDigit (all c List.mem_cons_self)] at blank
  cases blank

namespace Operand

/-- The whole number of a text is the one that it spells, if it fits into 64 bits with a sign. -/
theorem wordOfText?_eq_some_iff {text : String} {n : Int} :
    wordOfText? text = some n ↔ Text.SpellsInteger text.toList n ∧ -2 ^ 63 ≤ n ∧ n < 2 ^ 63 := by
  unfold wordOfText?
  simp only [Option.bind_eq_bind, Option.bind_eq_some_iff, Text.readInteger?_trim_eq_some_iff]
  constructor
  · rintro ⟨read, spells, kept⟩
    split at kept
    · next fits =>
      obtain rfl := Option.some.inj kept
      exact ⟨spells, fits⟩
    · cases kept
  · rintro ⟨spells, fits⟩
    exact ⟨n, spells, if_pos fits⟩

theorem wordOfText?_of_instant {text : String} {instant : Instant}
    (spelled : Instant.ofText? text = some instant) : wordOfText? text = none := by
  cases found : wordOfText? text with
  | none => rfl
  | some n => exact absurd (wordOfText?_eq_some_iff.mp found).1 (Instant.not_spellsInteger spelled n)

end Operand

end DocumentQuery
