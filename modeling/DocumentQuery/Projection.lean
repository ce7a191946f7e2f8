import DocumentQuery.Parameters
import DocumentQuery.Settings.Basic

/-!
Projections: the fields that a result is to have.

A projection is a set of names in the order in which they were first given. The parameter for it is
a list of names between commas.
-/

namespace DocumentQuery

/-- The fields of a result, each once. -/
structure Projection where
  fields : List String
  nodup : fields.Nodup
  deriving DecidableEq

namespace Projection

/-- No fields. -/
def empty : Projection :=
  ⟨[], List.nodup_nil⟩

instance : Inhabited Projection :=
  ⟨empty⟩

/-- The projection with one more field at the end, if it is new. -/
def insert (projection : Projection) (field : String) : Projection :=
  if known : field ∈ projection.fields then projection
  else
    { fields := projection.fields ++ [field]
      nodup := by
        rw [List.nodup_append]
        refine ⟨projection.nodup, by simp, ?_⟩
        intro a member b last
        rw [List.mem_singleton] at last
        subst last
        rintro rfl
        exact known member }

/-- The projection to a list of fields. -/
def ofList (fields : List String) : Projection :=
  fields.foldl insert empty

/-- The projection of a request. -/
def ofParameters? (settings : Settings) (parameters : Parameters) : Option Projection :=
  match parameters.scalar? settings.fieldsKey with
  | none => none
  | some text => if text = "" then none else some (ofList (Text.trimmedPieces ',' text))

/-- A projection as JSON. -/
def toJson (projection : Projection) : Json :=
  .object (projection.fields.map fun field => (field, .integer 1))

/-- Whether two projections have the same fields, in whatever order. -/
def agrees (left right : Projection) : Bool :=
  left.fields.length = right.fields.length && left.fields.all fun field => field ∈ right.fields

theorem fields_insert (projection : Projection) (field : String) :
    (projection.insert field).fields =
      if field ∈ projection.fields then projection.fields else projection.fields ++ [field] := by
  unfold insert
  split <;> rfl

end Projection

end DocumentQuery
