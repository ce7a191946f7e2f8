import DocumentQuery.Operator

/-!
Keys: a field path, and after its last point possibly the tag of an operator.

A key whose last segment is a tag is always read as field and operator, also where a field of that
name exists; every other key is a field as a whole, compared with `eq`.
-/

namespace DocumentQuery

/-- A key taken apart. -/
structure FieldKey where
  field : String
  operator : Operator
  deriving DecidableEq

namespace FieldKey

/-- What stands before the last point, and what after it; a key without a point is all after it. -/
def segments (key : String) : String × String :=
  match Text.splitLast? '.' key.toList with
  | some (front, last) => (String.ofList front, String.ofList last)
  | none => ("", key)

/-- Take a key apart. -/
def ofString (key : String) : FieldKey :=
  match Operator.ofTag? (segments key).2 with
  | some operator => ⟨(segments key).1, operator⟩
  | none => ⟨key, .eq⟩

theorem segments_of_no_point {key : String} (h : '.' ∉ key.toList) : segments key = ("", key) := by
  rw [segments, Text.splitLast?_eq_none h]

theorem segments_append {front last : String} (h : '.' ∉ last.toList) :
    segments (front ++ "." ++ last) = (front, last) := by
  have parts : (front ++ "." ++ last).toList = front.toList ++ '.' :: last.toList := by
    simp
  rw [segments, parts, Text.splitLast?_append _ h]
  simp

end FieldKey

end DocumentQuery
