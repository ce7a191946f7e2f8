import DocumentQuery.Proofs.FieldKey
import DocumentQuery.Proofs.Filter.Repetition
import DocumentQuery.Proofs.Json.FloatText
import DocumentQuery.Proofs.Operand.Typing
import DocumentQuery.Proofs.Parameters.Object

/-!
Whole numbers in filters.

For `eqInt` a text becomes the whole number that it spells, if that fits into 64 bits with a sign, and
otherwise stays as it is written. A number in a JSON object is taken for its text, so the same holds for
it, and no number comes out as another one (`Filter.whole_number_or_text_as_given`).
-/

namespace DocumentQuery

/-- Whether a whole number fits into 64 bits with a sign. -/
def FitsWord (n : Int) : Prop :=
  -2 ^ 63 ≤ n ∧ n ≤ 2 ^ 63 - 1

instance (n : Int) : Decidable (FitsWord n) :=
  inferInstanceAs (Decidable (_ ∧ _))

namespace Operand

variable {text : String} {n : Int}

/-! ## One text -/

theorem wordOfText?_eq_some_iff_fitsWord :
    wordOfText? text = some n ↔ Text.SpellsInteger text.toList n ∧ FitsWord n := by
  rw [wordOfText?_eq_some_iff, FitsWord, Int.le_sub_one_iff]

theorem wholeNumber_eq_int_iff :
    wholeNumber (.text text) = .int n ↔ Text.SpellsInteger text.toList n ∧ FitsWord n := by
  rw [← wordOfText?_eq_some_iff_fitsWord, wholeNumber]
  cases wordOfText? text with
  | none =>
    constructor
    · intro taken
      cases taken
    · intro found
      cases found
  | some m => rw [Operand.int.injEq, Option.some.injEq]

/-- A text that is not taken for a number is left alone. -/
theorem wholeNumber_cases (text : String) :
    (∃ n, wholeNumber (.text text) = .int n) ∨ wholeNumber (.text text) = .text text := by
  rw [wholeNumber]
  cases wordOfText? text with
  | none => exact Or.inr rfl
  | some n => exact Or.inl ⟨n, rfl⟩

/-! ## Numerals that are left -/

/-- A text that spells a whole number is no literal and spells no instant. -/
theorem ofText_of_spellsInteger (spells : Text.SpellsInteger text.toList n) :
    ofText text = .text text := by
  have digits : text.toList.any Char.isDigit = true := List.any_eq_true.mpr spells.exists_digit
  rcases ofText_cases text with ⟨rfl, _⟩ | ⟨rfl, _⟩ | ⟨rfl, _⟩ | ⟨_, spelled, _⟩ | ⟨_, read⟩
  · cases digits
  · cases digits
  · cases digits
  · exact absurd spells (Instant.not_spellsInteger spelled n)
  · exact read

theorem typed_wholeNumber_of_spellsInteger (spells : Text.SpellsInteger text.toList n) :
    typed (some .wholeNumber) (.text text) = if FitsWord n then .int n else .text text := by
  rw [typed_wholeNumber_text]
  by_cases fits : FitsWord n
  · rw [wordOfText?_eq_some_iff_fitsWord.mpr ⟨spells, fits⟩, if_pos fits]
  · rw [if_neg fits]
    cases found : wordOfText? text with
    | none => exact ofText_of_spellsInteger spells
    | some m =>
      obtain ⟨other, small⟩ := wordOfText?_eq_some_iff_fitsWord.mp found
      rw [other.unique spells] at small
      exact absurd small fits

/-- The text of a finite binary64 number is no literal and spells no instant. -/
theorem ofText_float {x : Binary64} (finite : x.value? ≠ none) :
    ofText (Json.float x).compact = .text (Json.float x).compact := by
  have literal : ∀ {c : Char} {rest : List Char}, (Json.float x).compact = String.ofList (c :: rest) →
      c.isDigit = true ∨ c = '-' ∨ c = '.' ∨ c = 'e' := by
    intro c rest same
    apply Json.first_of_floatText finite
    rw [← Json.toList_compact_float, same, String.toList_ofList]
  rcases ofText_cases (Json.float x).compact with ⟨same, _⟩ | ⟨same, _⟩ | ⟨same, _⟩ |
    ⟨_, spelled, _⟩ | ⟨_, read⟩
  · exact absurd (literal same) (by decide)
  · exact absurd (literal same) (by decide)
  · exact absurd (literal same) (by decide)
  · obtain ⟨digits, after, parts, nonempty, all⟩ := Instant.hyphen_of_ofText? spelled
    rw [Json.toList_compact_float] at parts
    exact absurd parts (Json.floatText_ne_digits_hyphen finite nonempty all after)
  · exact read

theorem typed_wholeNumber_float {x : Binary64} (finite : x.value? ≠ none) :
    typed (some .wholeNumber) (.text (Json.float x).compact) = .text (Json.float x).compact := by
  rw [typed_wholeNumber_text]
  cases found : wordOfText? (Json.float x).compact with
  | none => exact ofText_float finite
  | some n =>
    obtain ⟨spells, _⟩ := wordOfText?_eq_some_iff.mp found
    rw [Json.toList_compact_float] at spells
    exact absurd spells (Json.not_spellsInteger_floatText finite n)

end Operand

/-! ## Numbers among parameters -/

namespace Parameters

/-- Whether parameters have a whole number under a name: as a number of a JSON object, or in a text that
spells it. -/
inductive HasInteger (parameters : Parameters) (key : String) (n : Int) : Prop
  | number {members : List (String × Json)} (read : ofJson (.object members) = .ok parameters)
      (given : (Dict.ofList members).get? key = some (.integer n))
  | text {text : String} (given : parameters.get? key = some (.single text))
      (spells : Text.SpellsInteger text.toList n)

/-- A number of a JSON object is one text among the parameters, and that spells it. -/
theorem HasInteger.exists_text {parameters : Parameters} {key : String} {n : Int}
    (has : parameters.HasInteger key n) :
    ∃ text, parameters.get? key = some (.single text) ∧ Text.SpellsInteger text.toList n := by
  cases has with
  | number read given =>
    refine ⟨(Json.integer n).compact, ?_, ?_⟩
    · rw [get?_ofJson read, given]
      rfl
    · rw [Json.toList_compact_integer]
      exact Text.spellsInteger_integer n
  | text given spells => exact ⟨_, given, spells⟩

theorem get?_ofJson_float {members : List (String × Json)} {parameters : Parameters} {key : String}
    {x : Binary64} (read : ofJson (.object members) = .ok parameters)
    (given : (Dict.ofList members).get? key = some (.float x)) :
    parameters.get? key = some (.single (Json.float x).compact) := by
  rw [get?_ofJson read, given]
  rfl

end Parameters

namespace Filter

variable {settings : Settings} {parameters : Parameters}

theorem clauseOf_eqInt (field text : String) :
    clauseOf (field ++ ".eqInt") (.single text) =
      ⟨field, [("$eq", Operand.typed (some .wholeNumber) (.text text))]⟩ := by
  have classified : FieldKey.ofString (field ++ ".eqInt") = ⟨field, .eqInt⟩ :=
    FieldKey.ofString_append_suffix field .eqInt rfl
  unfold clauseOf
  rw [classified]
  rfl

/-- One text under a name gives one clause, between the clauses of the names before it and of those after
it. -/
theorem exists_clauses_of_single {key text : String} (unreserved : settings.reserves key = false)
    (given : parameters.get? key = some (.single text)) :
    ∃ before after, parameters.entries = before ++ (key, .single text) :: after ∧
      (ofParameters settings parameters).clauses =
        clausesOf settings before ++ [clauseOf key (.single text)] ++ clausesOf settings after := by
  obtain ⟨before, after, split⟩ := Dict.exists_split_of_get? given
  refine ⟨before, after, split, ?_⟩
  rw [clauses_of_split unreserved split, block_single]

/-- A text is taken for a whole number when it is one in decimal digits, with a sign or without and with
any blanks around, and the number fits into 64 bits; any other text is left as it is. So a whole number that
a request has under a name with `eqInt`, in a JSON object or in a text, is in the clause of that name as the
same number, or if it does not fit, as the text that it was given in. The other numbers of a JSON object are
texts in their clauses, too. -/
theorem whole_number_or_text_as_given :
    (∀ text n, Operand.wholeNumber (.text text) = .int n ↔
        Text.SpellsInteger text.toList n ∧ FitsWord n) ∧
      (∀ text, (∀ n, ¬ (Text.SpellsInteger text.toList n ∧ FitsWord n)) →
        Operand.wholeNumber (.text text) = .text text) ∧
      ∀ (settings : Settings) (field : String), settings.reserves (field ++ ".eqInt") = false →
        ∀ parameters : Parameters,
          (∀ n, parameters.HasInteger (field ++ ".eqInt") n → ∃ before after text operand,
            parameters.entries = before ++ (field ++ ".eqInt", .single text) :: after ∧
            (ofParameters settings parameters).clauses =
              clausesOf settings before ++ [⟨field, [("$eq", operand)]⟩] ++ clausesOf settings after ∧
            Text.SpellsInteger text.toList n ∧
            (FitsWord n → operand.toJson = .integer n ∧ operand.toJson.compact = toString n) ∧
            (¬ FitsWord n → operand = .text text)) ∧
          ∀ members x, Parameters.ofJson (.object members) = .ok parameters →
            (Dict.ofList members).get? (field ++ ".eqInt") = some (.float x) → x.value? ≠ none →
              ∃ before after,
                parameters.entries =
                  before ++ (field ++ ".eqInt", .single (Json.float x).compact) :: after ∧
                (ofParameters settings parameters).clauses = clausesOf settings before ++
                  [⟨field, [("$eq", .text (Json.float x).compact)]⟩] ++ clausesOf settings after := by
  refine ⟨fun text n => Operand.wholeNumber_eq_int_iff, fun text none => ?_,
    fun settings field unreserved parameters => ⟨fun n has => ?_, fun members x read given finite => ?_⟩⟩
  · rcases Operand.wholeNumber_cases text with ⟨n, taken⟩ | left
    · exact absurd (Operand.wholeNumber_eq_int_iff.mp taken) (none n)
    · exact left
  · obtain ⟨text, single, spells⟩ := has.exists_text
    obtain ⟨before, after, split, clauses⟩ := exists_clauses_of_single unreserved single
    have operand := Operand.typed_wholeNumber_of_spellsInteger spells
    rw [clauseOf_eqInt, operand] at clauses
    refine ⟨before, after, text, _, split, clauses, spells, fun fits => ?_, fun beyond => if_neg beyond⟩
    rw [if_pos fits]
    refine ⟨rfl, ?_⟩
    rw [Operand.toJson, Json.compact, Json.write, Text.ofList_integer]
  · have single := Parameters.get?_ofJson_float read given
    obtain ⟨before, after, split, clauses⟩ := exists_clauses_of_single unreserved single
    rw [clauseOf_eqInt, Operand.typed_wholeNumber_float finite] at clauses
    exact ⟨before, after, split, clauses⟩

/-- The greatest number that fits, in a text with zeros and blanks, the next one in a JSON object, and a
number there that is no whole one any more. -/
theorem whole_number_or_text_as_given_greatest :
    let spelled : Parameters :=
      .ofList [("a", .single "x"), ("n.eqInt", .single "\t+0009223372036854775807 ")]
    let next : Parameters := .ofList [("n.eqInt", .single "9223372036854775808")]
    let power := Binary64.finite false (2 ^ 52) 12 (by decide)
    let powered : Parameters := .ofList [("n.eqInt", .single (Json.float power).compact)]
    Settings.builtin.reserves "n.eqInt" = false ∧
      Parameters.ofJson (.object [("n.eqInt", .integer (2 ^ 63))]) = .ok next ∧
      Parameters.ofJson (.object [("n.eqInt", .float power)]) = .ok powered ∧
      (∃ before after operand, (ofParameters .builtin spelled).clauses =
          clausesOf .builtin before ++ [⟨"n", [("$eq", operand)]⟩] ++ clausesOf .builtin after ∧
        operand.toJson.compact = "9223372036854775807") ∧
      (∃ before after text, next.entries = before ++ ("n.eqInt", .single text) :: after ∧
        (ofParameters .builtin next).clauses =
          clausesOf .builtin before ++ [⟨"n", [("$eq", .text text)]⟩] ++ clausesOf .builtin after) ∧
      ∃ before after, (ofParameters .builtin powered).clauses =
        clausesOf .builtin before ++ [⟨"n", [("$eq", .text (Json.float power).compact)]⟩] ++
          clausesOf .builtin after := by
  intro spelled next power powered
  have unreserved : Settings.builtin.reserves "n.eqInt" = false := by decide
  have readNext : Parameters.ofJson (.object [("n.eqInt", .integer (2 ^ 63))]) = .ok next := rfl
  have readPower : Parameters.ofJson (.object [("n.eqInt", .float power)]) = .ok powered := rfl
  obtain ⟨_, _, requests⟩ := whole_number_or_text_as_given
  have numeral : Text.SpellsInteger "\t+0009223372036854775807 ".toList (2 ^ 63 - 1) :=
    Text.readInteger?_trim_eq_some_iff.mp (by decide +kernel)
  have has : spelled.HasInteger "n.eqInt" (2 ^ 63 - 1) := .text (by decide) numeral
  have hasNext : next.HasInteger "n.eqInt" (2 ^ 63) := .number readNext rfl
  obtain ⟨before, after, _, operand, _, clauses, _, fits, _⟩ :=
    (requests .builtin "n" unreserved spelled).1 (2 ^ 63 - 1) has
  obtain ⟨before', after', text, operand', split', clauses', _, _, beyond⟩ :=
    (requests .builtin "n" unreserved next).1 (2 ^ 63) hasNext
  obtain ⟨before'', after'', _, clauses''⟩ :=
    (requests .builtin "n" unreserved powered).2 _ power readPower rfl nofun
  rw [beyond (by decide)] at clauses'
  exact ⟨unreserved, readNext, readPower, ⟨before, after, operand, clauses, (fits (by decide)).2⟩,
    ⟨before', after', text, split', clauses'⟩, before'', after'', clauses''⟩

end Filter

end DocumentQuery
