import DocumentQuery.Filter
import DocumentQuery.Pagination.Basic
import DocumentQuery.Projection
import DocumentQuery.SortOrder

/-!
Queries: what a request asks of a document database.

A query has a filter and, where the request says so, a pagination, a sort order and a projection.
`ofParameters` reads each part from the parameters on its own.
-/

namespace DocumentQuery

/-- A query to a document database. -/
structure Query where
  pagination : Option Pagination
  filter : Filter
  sort : Option SortOrder
  fields : Option Projection
  deriving DecidableEq

namespace Query

/-- The query that a request asks for. -/
def ofParameters (settings : Settings) (parameters : Parameters) : Query where
  pagination := Pagination.ofParameters settings parameters
  filter := Filter.ofParameters settings parameters
  sort := SortOrder.ofParameters? settings parameters
  fields := Projection.ofParameters? settings parameters

/-- A query as JSON; parts that it does not have are left out. -/
def toJson (query : Query) : Json :=
  .object ((query.pagination.map fun part => ("pagination", part.toJson)).toList ++
    [("filters", query.filter.toJson)] ++
    (query.sort.map fun part => ("sort", SortOrder.toJson part)).toList ++
    (query.fields.map fun part => ("fields", part.toJson)).toList)

/-! ## Equality of parts -/

/-- Whether two optional values are both absent or both present and related. -/
def bothOrNeither {α : Type} (related : α → α → Bool) : Option α → Option α → Bool
  | none, none => true
  | some a, some b => related a b
  | _, _ => false

/-- Whether two queries have equal paginations, as numbers. -/
def samePagination (left right : Query) : Bool :=
  bothOrNeither Pagination.equals left.pagination right.pagination

/-- Whether two queries sort the same fields the same way, in whatever order of precedence. -/
def sameSort (left right : Query) : Bool :=
  bothOrNeither Dict.agrees left.sort right.sort

/-- Whether two queries return the same fields, in whatever order. -/
def sameFields (left right : Query) : Bool :=
  bothOrNeither Projection.agrees left.fields right.fields

/-- Whether two queries are equal in all their parts. -/
def equals (left right : Query) : Bool :=
  samePagination left right && left.filter = right.filter && sameSort left right &&
    sameFields left right

end Query

end DocumentQuery
