import DocumentQuery.Operand.Basic

/-!
Typed operands from text.

A text that spells nothing else stays a text; the literals `null`, `true` and `false`, timestamps
and calendar dates become what they spell. An operator may reshape an operand first, by a
`Transform`. Nothing here fails: what a transform cannot use it leaves alone or gives a fixed answer
for.
-/

namespace DocumentQuery

/-! ## Recognised texts -/

/-- A way to recognise a text as a typed operand. -/
structure Recogniser where
  name : String
  accept : String → Option Operand

namespace Recogniser

/-- The literal for no value. -/
def null : Recogniser where
  name := "null"
  accept text := if text = "null" then some .null else none

/-- The two truth values. -/
def boolean : Recogniser where
  name := "boolean"
  accept text :=
    if text = "true" then some (.bool true)
    else if text = "false" then some (.bool false)
    else none

/-- A timestamp, for its instant. -/
def timestamp : Recogniser where
  name := "timestamp"
  accept text := (Timestamp.read? text.toList).map .date

/-- A calendar date, for the first instant of the day. -/
def date : Recogniser where
  name := "date"
  accept text := (Date.read? text.toList).map fun date => .date (.ofDay date.number)

/-- All of them, the first to be tried in front. -/
def all : List Recogniser :=
  [null, boolean, timestamp, date]

end Recogniser

namespace Operand

/-- The operand that a text spells by the given recognisers, or the text itself. -/
def recognise (recognisers : List Recogniser) (text : String) : Operand :=
  (recognisers.findSome? fun recogniser => recogniser.accept text).getD (.text text)

/-- The operand that a text spells. -/
def ofText (text : String) : Operand :=
  recognise Recogniser.all text

mutual

/-- Every text of an operand replaced by what it spells. -/
def interpret : Operand → Operand
  | .text value => ofText value
  | .list items => .list (interpretList items)
  | operand => operand

/-- `interpret` on each item. -/
def interpretList : List Operand → List Operand
  | [] => []
  | item :: items => interpret item :: interpretList items

end

theorem interpretList_eq_map (items : List Operand) : interpretList items = items.map interpret := by
  induction items with
  | nil => rfl
  | cons item items ih => rw [interpretList, ih, List.map_cons]

/-! ## Pieces, truth values, whole numbers -/

/-- A text as the list of its pieces between commas, as they are written. -/
def inPieces : Operand → Operand
  | .text value => .list ((Text.pieces ',' value).map .text)
  | operand => operand

mutual

/-- The text `true` as true, truth values as they are, and anything else as false. -/
def presence : Operand → Operand
  | .list items => .list (presences items)
  | .text value => .bool (value = "true")
  | .bool value => .bool value
  | _ => .bool false

/-- `presence` on each item. -/
def presences : List Operand → List Operand
  | [] => []
  | item :: items => presence item :: presences items

end

/-- The whole number that a text spells, blanks at its ends aside, if it fits into 64 bits with a
sign. -/
def wordOfText? (text : String) : Option Int := do
  let number ← Text.readInteger? (Text.trim text.toList)
  if -2 ^ 63 ≤ number ∧ number < 2 ^ 63 then some number else none

mutual

/-- A text that spells a whole number as that number. -/
def wholeNumber : Operand → Operand
  | .list items => .list (wholeNumbers items)
  | .text value =>
    match wordOfText? value with
    | some number => .int number
    | none => .text value
  | operand => operand

/-- `wholeNumber` on each item. -/
def wholeNumbers : List Operand → List Operand
  | [] => []
  | item :: items => wholeNumber item :: wholeNumbers items

end

theorem presences_eq_map (items : List Operand) : presences items = items.map presence := by
  induction items with
  | nil => rfl
  | cons item items ih => rw [presences, ih, List.map_cons]

theorem wholeNumbers_eq_map (items : List Operand) :
    wholeNumbers items = items.map wholeNumber := by
  induction items with
  | nil => rfl
  | cons item items ih => rw [wholeNumbers, ih, List.map_cons]

end Operand

/-! ## Transforms -/

/-- What an operator does to an operand before its texts are looked at. -/
inductive Transform
  | inPieces
  | presence
  | wholeNumber
  deriving DecidableEq

/-- Carry out a transform. -/
def Transform.run : Transform → Operand → Operand
  | .inPieces => Operand.inPieces
  | .presence => Operand.presence
  | .wholeNumber => Operand.wholeNumber

/-- An operand after a transform, if there is one, and with its texts replaced by what they
spell. -/
def Operand.typed (transform : Option Transform) (operand : Operand) : Operand :=
  match transform with
  | some transform => (transform.run operand).interpret
  | none => operand.interpret

end DocumentQuery
