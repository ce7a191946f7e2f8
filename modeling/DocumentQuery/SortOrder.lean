import DocumentQuery.Parameters
import DocumentQuery.Settings.Basic

/-!
Sort orders: fields in order of precedence, each with a direction.

A sort parameter is a list of terms between commas. A term is a field, and after a blank possibly
one of the words `ASC` and `DESC`. A field that comes again keeps its place and takes the new
direction.
-/

namespace DocumentQuery

/-! ## Directions -/

/-- A direction of sorting. -/
inductive Direction
  | ascending
  | descending
  deriving DecidableEq

namespace Direction

/-- The number that stands for a direction. -/
def value : Direction → Int
  | ascending => 1
  | descending => -1

/-- Whether `c` is the small letter `letter` in either case. The long s is a form of `s`. -/
def isForm (letter c : Char) : Bool :=
  c.toLower = letter || (letter = 's' && c = 'ſ')

/-- Whether a text spells a word of small letters, in whatever case. -/
def spells : List Char → List Char → Bool
  | [], [] => true
  | letter :: word, c :: text => isForm letter c && spells word text
  | _, _ => false

/-- The direction that a word names. With a long s it counts as a word for a direction, but only as
one for the usual direction. -/
def ofWord? (word : List Char) : Option Direction :=
  if spells "desc".toList word then
    some (if word.map Char.toLower = "desc".toList then descending else ascending)
  else if spells "asc".toList word then some ascending
  else none

end Direction

/-! ## Terms -/

namespace SortTerm

/-- The shortest front of a text such that a blank and the word for a direction are all that comes
after it, and that direction. The front has no line feed in it. -/
def cut? : List Char → Option (List Char × Direction)
  | [] => none
  | c :: text =>
    match if Text.isBlank c then Direction.ofWord? text else none with
    | some direction => some ([], direction)
    | none =>
      if c = '\n' then none
      else (cut? text).map fun (front, direction) => (c :: front, direction)

/-- The field and the direction of a term. -/
def parse (term : String) : String × Direction :=
  let text := Text.trim term.toList
  match cut? text with
  | some (front, direction) => (String.ofList (Text.trim front), direction)
  | none => (String.ofList text, .ascending)

end SortTerm

/-! ## Sort orders -/

/-- Fields with their directions, the most important field in front. -/
abbrev SortOrder := Dict String Direction

namespace SortOrder

/-- The order that terms give, from left to right. -/
def ofTerms (terms : List (String × Direction)) : SortOrder :=
  Dict.ofList terms

/-- The sort order of a request. -/
def ofParameters? (settings : Settings) (parameters : Parameters) : Option SortOrder :=
  match parameters.scalar? settings.sortKey with
  | none => none
  | some text =>
    if text = "" then none else some (ofTerms ((Text.pieces ',' text).map SortTerm.parse))

/-- A sort order as JSON. -/
def toJson (order : SortOrder) : Json :=
  .object (order.entries.map fun entry => (entry.1, .integer entry.2.value))

end SortOrder

end DocumentQuery
