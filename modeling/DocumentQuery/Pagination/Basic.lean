import DocumentQuery.Pagination.Numeral
import DocumentQuery.Parameters
import DocumentQuery.Settings.Basic

/-!
Pagination: how many results to return, and how many to pass over.

Both are binary64 numbers, so that a parameter that is no number shows as `nan` and is not replaced
by a default. `window?` gives them as whole numbers where they are.
-/

namespace DocumentQuery

/-- The part of the results that is asked for. -/
structure Pagination where
  limit : Binary64
  offset : Binary64
  deriving DecidableEq

namespace Pagination

/-! ## Reading -/

/-- The number in a parameter: the default when it is absent or empty, zero when it is blank, and
otherwise the value of its numeral. -/
def number (value : Option String) (default : Nat) : Binary64 :=
  match value with
  | none => .ofNat default
  | some text =>
    if text = "" then .ofNat default
    else
      let numeral := Text.trim text.toList
      if numeral.isEmpty then .zero false else Numeral.read numeral

/-- The pagination for a page, counted from one, and the size of a page. -/
def ofPage (page size : Binary64) : Pagination where
  limit := size
  offset := (page.sub (.ofNat 1)).mul size

/-- The pagination of a request. The limit `null`, as a text, asks for all results. -/
def ofParameters (settings : Settings) (parameters : Parameters) : Option Pagination :=
  let limit := parameters.scalar? settings.limitKey
  if limit = some "null" then none
  else
    let page := parameters.scalar? settings.pageKey
    some (ofPage (number page settings.defaultPage) (number limit settings.defaultLimit))

/-! ## Whole numbers -/

/-- The whole number of 64 bits without sign that a number is. The number `2 ^ 64`, which the
greatest of them rounds to, is taken for the greatest. -/
def word? (x : Binary64) : Option Nat :=
  match x.toInt? with
  | some n => if 0 ≤ n ∧ n ≤ 2 ^ 64 then some (min n.toNat (2 ^ 64 - 1)) else none
  | none => none

/-- Limit and offset as whole numbers. -/
def window? (pagination : Pagination) : Option (Nat × Nat) := do
  let limit ← word? pagination.limit
  let offset ← word? pagination.offset
  some (limit, offset)

/-- A number as JSON: whole below `2 ^ 63`, and otherwise as a binary64 number. -/
def numberToJson (x : Binary64) : Json :=
  match x.toInt? with
  | some n => if n.natAbs < 2 ^ 63 then .integer n else .float x
  | none => .float x

/-- A pagination as JSON. -/
def toJson (pagination : Pagination) : Json :=
  .object [("limit", numberToJson pagination.limit), ("offset", numberToJson pagination.offset)]

/-- Whether two paginations are equal as numbers. -/
def equals (left right : Pagination) : Bool :=
  left.limit.equals right.limit && left.offset.equals right.offset

end Pagination

end DocumentQuery
