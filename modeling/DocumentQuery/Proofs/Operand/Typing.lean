import DocumentQuery.Proofs.Filter.Blocks

/-!
Typed operands.

A typed operand stays what it is when it is typed again, by the same transform or by none: what an
operator has made of a text is nothing that the operator or the recognisers would change. Without a
transform the lists of an operand stay as they are, and only texts change, each into a scalar at the
same place. `Operand.typing_settles` has it all.
-/

namespace DocumentQuery.Operand

/-! ## Typing twice -/

theorem typed_wholeNumber_text (value : String) :
    typed (some .wholeNumber) (.text value) = match wordOfText? value with
      | some number => .int number
      | none => ofText value := by
  show interpret (wholeNumber (.text value)) = _
  rw [wholeNumber]
  cases wordOfText? value <;> rfl

/-- A text that is left spells no whole number, and what it spells instead is no text. -/
theorem typed_typed_wholeNumber_text (value : String) :
    typed (some .wholeNumber) (typed (some .wholeNumber) (.text value)) =
      typed (some .wholeNumber) (.text value) := by
  have once := typed_wholeNumber_text value
  cases spelled : wordOfText? value with
  | some number =>
    rw [spelled] at once
    rw [once]
    rfl
  | none =>
    rw [spelled] at once
    simp only at once
    rcases ofText_cases value with ⟨_, read⟩ | ⟨_, read⟩ | ⟨_, read⟩ | ⟨_, _, read⟩ | ⟨_, read⟩
    · rw [once, read]
      rfl
    · rw [once, read]
      rfl
    · rw [once, read]
      rfl
    · rw [once, read]
      rfl
    · -- a text that is left is the one that was there, and was no number the first time
      rw [read] at once
      rw [once, once]

theorem typed_typed_text {transform : Option Transform} (scalar : transform ≠ some .inPieces)
    (value : String) : typed transform (typed transform (.text value)) = typed transform (.text value) := by
  rcases transform with _ | _ | _ | _
  · exact interpret_ofText value
  · exact absurd rfl scalar
  · rfl
  · exact typed_typed_wholeNumber_text value

mutual

/-- A transform that does not cut texts goes through lists, down to the texts. -/
theorem typed_typed_of_ne {transform : Option Transform} (scalar : transform ≠ some .inPieces)
    (operand : Operand) : typed transform (typed transform operand) = typed transform operand := by
  cases operand with
  | text value => exact typed_typed_text scalar value
  | list items => rw [typed_list scalar, typed_list scalar, map_typed_typed scalar items]
  | null => rcases transform with _ | _ | _ | _ <;> rfl
  | bool value => rcases transform with _ | _ | _ | _ <;> rfl
  | int value => rcases transform with _ | _ | _ | _ <;> rfl
  | date value => rcases transform with _ | _ | _ | _ <;> rfl

theorem map_typed_typed {transform : Option Transform} (scalar : transform ≠ some .inPieces)
    (items : List Operand) :
    (items.map (typed transform)).map (typed transform) = items.map (typed transform) := by
  cases items with
  | nil => rfl
  | cons item items =>
    rw [List.map_cons, List.map_cons, typed_typed_of_ne scalar item, map_typed_typed scalar items]

end

/-- Cutting leaves no text that is not in a list, and does not cut what is in a list. -/
theorem inPieces_typed_inPieces (operand : Operand) :
    inPieces (typed (some .inPieces) operand) = typed (some .inPieces) operand := by
  cases operand <;> rfl

theorem typed_typed (transform : Option Transform) (operand : Operand) :
    typed transform (typed transform operand) = typed transform operand := by
  by_cases cut : transform = some .inPieces
  · subst cut
    show interpret (inPieces (typed (some .inPieces) operand)) = _
    rw [inPieces_typed_inPieces, interpret_typed]
  · exact typed_typed_of_ne cut operand

/-! ## Places in an operand -/

/-- The operand at a place in another: the numbers are the places in the lists, from the outermost
in. -/
def at? : List Nat → Operand → Option Operand
  | [], operand => some operand
  | index :: path, .list items => items[index]?.bind (at? path)
  | _ :: _, _ => none

theorem at?_cons_of_ne_list {operand : Operand} (scalar : ∀ items, operand ≠ .list items) (index : Nat)
    (path : List Nat) : at? (index :: path) operand = none := by
  cases operand with
  | list items => exact absurd rfl (scalar items)
  | _ => rfl

/-- Each place holds what its operand is read as, and no places come in or go. -/
theorem at?_interpret (path : List Nat) (operand : Operand) :
    at? path operand.interpret = (at? path operand).map interpret := by
  induction path generalizing operand with
  | nil => rfl
  | cons index path ih =>
    cases operand with
    | list items =>
      rw [interpret, interpretList_eq_map, at?, at?, List.getElem?_map]
      cases items[index]? with
      | none => rfl
      | some item => exact ih item
    | text value => exact at?_cons_of_ne_list (ofText_ne_list value) index path
    | _ => rfl

/-- How an operand changes when its texts are read: a list is as long as before, a text has become a
scalar, and anything else is what it was. -/
def Rereads : Operand → Operand → Prop
  | .list items, after => ∃ read, after = .list read ∧ read.length = items.length
  | .text value, after => after = ofText value ∧ ∀ items, after ≠ .list items
  | before, after => after = before

theorem rereads_interpret (operand : Operand) : Rereads operand operand.interpret := by
  cases operand with
  | list items =>
    refine ⟨items.map interpret, ?_, List.length_map _⟩
    rw [interpret, interpretList_eq_map]
  | text value => exact ⟨rfl, ofText_ne_list value⟩
  | _ => rfl

/-- Typing settles an operand: the same transform once more changes nothing, and neither does a look
at the texts that are left. A look at the texts of any operand keeps its places, the lengths of its lists
and all that is no text. -/
theorem typing_settles (transform : Option Transform) (operand : Operand) :
    typed transform (typed transform operand) = typed transform operand ∧
      (typed transform operand).interpret = typed transform operand ∧
      ∀ path, Option.Rel Rereads (at? path operand) (at? path operand.interpret) := by
  refine ⟨typed_typed transform operand, interpret_typed transform operand, fun path => ?_⟩
  rw [at?_interpret]
  cases at? path operand with
  | none => exact Option.Rel.none
  | some found => exact Option.Rel.some (rereads_interpret found)

example :
    let once := typed (some .wholeNumber) (.list [.text " 07", .text "true", .list [.text "7.5"]])
    once = .list [.int 7, .bool true, .list [.text "7.5"]] ∧ typed (some .wholeNumber) once = once := by
  decide +kernel

end DocumentQuery.Operand
