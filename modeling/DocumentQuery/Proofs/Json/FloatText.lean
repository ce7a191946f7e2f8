import DocumentQuery.Json.Printer
import DocumentQuery.Proofs.Binary64.Value
import DocumentQuery.Proofs.Text.Integer

/-!
Binary64 numbers as text.

The magnitude of a finite number has a point or an exponent behind its first digits
(`floatText_cases`). So no number is written in digits alone, and a finite number is written as no whole
number is, though its value may be whole.
-/

namespace DocumentQuery.Json

theorem toList_compact_integer (n : Int) : (Json.integer n).compact.toList = Text.integer n := by
  rw [compact, write, String.toList_ofList]

theorem toList_compact_float (x : Binary64) : (Json.float x).compact.toList = floatText x := by
  rw [compact, write, String.toList_ofList]

/-- Whether a point or an exponent stands behind the first digits of a text. -/
def IsMarked (text : List Char) : Prop :=
  ∃ mark rest, text.dropWhile Char.isDigit = mark :: rest ∧ (mark = '.' ∨ mark = 'e')

theorem isMarked_of_digits {digits : List Char} (all : ∀ c ∈ digits, c.isDigit = true) {mark : Char}
    (marks : mark = '.' ∨ mark = 'e') (rest : List Char) : IsMarked (digits ++ mark :: rest) := by
  have notDigit : mark.isDigit = false := by
    rcases marks with rfl | rfl <;> rfl
  exact ⟨mark, rest, Text.dropWhile_digits all notDigit rest, marks⟩

theorem IsMarked.exists_mem {text : List Char} (marked : IsMarked text) :
    ∃ mark ∈ text, mark = '.' ∨ mark = 'e' := by
  obtain ⟨mark, rest, behind, marks⟩ := marked
  have member : mark ∈ text.dropWhile Char.isDigit := by
    rw [behind]
    exact List.mem_cons_self
  exact ⟨mark, List.dropWhile_subset _ member, marks⟩

theorem isMarked_decimalText (decimal : Binary64.Decimal) : IsMarked (decimalText decimal) := by
  have digits : ∀ c ∈ Text.natural decimal.coefficient, c.isDigit = true := fun _ =>
    Text.isDigit_of_mem_natural
  unfold decimalText
  simp only
  split
  · split
    · refine isMarked_of_digits (fun c member => ?_) (Or.inl rfl) ['0']
      rcases List.mem_append.mp member with written | zero
      · exact digits c written
      · rw [List.eq_of_mem_replicate zero]
        rfl
    · split
      · exact isMarked_of_digits (fun c member => digits c (List.mem_of_mem_take member)) (Or.inl rfl) _
      · exact ⟨'.', _, rfl, Or.inl rfl⟩
  · split
    · next lead d rest written =>
      have first : ∀ c ∈ [lead], c.isDigit = true := by
        intro c member
        rw [List.mem_singleton.mp member]
        exact digits lead (written ▸ List.mem_cons_self)
      exact isMarked_of_digits first (Or.inl rfl) _
    · exact isMarked_of_digits digits (Or.inr rfl) _

/-- A finite number is written as a marked text, if at all, and with a minus sign in front or none. -/
theorem floatText_cases {x : Binary64} (finite : x.value? ≠ none) :
    ∃ magnitude, (magnitude = [] ∨ IsMarked magnitude) ∧
      (floatText x = magnitude ∨ floatText x = '-' :: magnitude) := by
  cases x with
  | nan => exact absurd rfl finite
  | infinite negative => exact absurd rfl finite
  | finite negative significand exponent canonical =>
    refine ⟨floatText (.finite false significand exponent canonical), ?_, ?_⟩
    · unfold floatText
      simp only [Bool.false_eq_true, if_false]
      split
      · exact Or.inr ⟨'.', ['0'], rfl, Or.inl rfl⟩
      · split
        · next decimal _ => exact Or.inr (isMarked_decimalText decimal)
        · exact Or.inl rfl
    · cases negative with
      | true => exact Or.inr rfl
      | false => exact Or.inl rfl

/-- What a written number can begin with. -/
theorem first_of_floatText {x : Binary64} (finite : x.value? ≠ none) {c : Char} {rest : List Char}
    (begins : floatText x = c :: rest) : c.isDigit = true ∨ c = '-' ∨ c = '.' ∨ c = 'e' := by
  obtain ⟨magnitude, written, same | same⟩ := floatText_cases finite
  · rw [begins] at same
    rcases written with rfl | ⟨mark, behind, marked, marks⟩
    · cases same
    · rw [← same] at marked
      by_cases digit : c.isDigit = true
      · exact Or.inl digit
      · rw [List.dropWhile_cons_of_neg digit] at marked
        rw [(List.cons.inj marked).1]
        exact Or.inr (Or.inr marks)
  · rw [begins] at same
    exact Or.inr (Or.inl (List.cons.inj same).1)

/-- No number is written with a hyphen behind its first digits, if it has digits in front. -/
theorem floatText_ne_digits_hyphen {x : Binary64} (finite : x.value? ≠ none) {digits : List Char}
    (nonempty : digits ≠ []) (all : ∀ c ∈ digits, c.isDigit = true) (after : List Char) :
    floatText x ≠ digits ++ '-' :: after := by
  intro parts
  obtain ⟨first, others, rfl⟩ := List.exists_cons_of_ne_nil nonempty
  obtain ⟨magnitude, written, same | same⟩ := floatText_cases finite
  · rw [parts] at same
    rcases written with rfl | ⟨mark, behind, marked, marks⟩
    · cases same
    · rw [← same, Text.dropWhile_digits all rfl] at marked
      obtain rfl := (List.cons.inj marked).1
      rcases marks with point | exponent
      · cases point
      · cases exponent
  · rw [parts] at same
    have digit := all first List.mem_cons_self
    rw [(List.cons.inj same).1] at digit
    cases digit

/-- A binary64 number is never written in digits alone. -/
theorem isDigits_floatText (x : Binary64) : Text.isDigits (floatText x) = false := by
  by_cases finite : x.value? = none
  · cases x with
    | finite negative significand exponent canonical => cases finite
    | nan => rfl
    | infinite negative => rfl
  · obtain ⟨magnitude, written, same | same⟩ := floatText_cases finite
    · rw [same]
      rcases written with rfl | marked
      · rfl
      · obtain ⟨mark, member, rfl | rfl⟩ := marked.exists_mem
        · exact Text.isDigits_of_mem (by decide) member
        · exact Text.isDigits_of_mem (by decide) member
    · rw [same]
      rfl

/-- A finite number is not written as a whole number is. -/
theorem not_spellsInteger_floatText {x : Binary64} (finite : x.value? ≠ none) (n : Int) :
    ¬ Text.SpellsInteger (floatText x) n := by
  intro spells
  obtain ⟨magnitude, written, same⟩ := floatText_cases finite
  rcases written with rfl | marked
  · -- without a magnitude there is no digit
    obtain ⟨c, member, digit⟩ := spells.exists_digit
    rcases same with same | same
    · rw [same] at member
      cases member
    · rw [same, List.mem_singleton] at member
      rw [member] at digit
      cases digit
  · obtain ⟨mark, member, marks⟩ := marked.exists_mem
    have inside : mark ∈ floatText x := by
      rcases same with same | same
      · rw [same]
        exact member
      · rw [same]
        exact List.mem_cons_of_mem '-' member
    have allowed := spells.blank_or_sign_or_digit mark inside
    revert allowed
    rcases marks with rfl | rfl <;> decide

end DocumentQuery.Json
