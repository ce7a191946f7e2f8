import DocumentQuery.Operator

/-!
Clauses: what a filter says about one field.

A clause lists entries under symbols, such as `$gte` and `$lt`, for one field. An operator makes a
clause of one typed operand.
-/

namespace DocumentQuery

/-- A statement about one field. -/
structure Clause where
  field : String
  /-- Operands under their symbols. -/
  predicate : List (String × Operand)
  deriving DecidableEq

namespace Clause

/-- The first operand under a symbol. -/
def get? (clause : Clause) (symbol : String) : Option Operand :=
  (clause.predicate.find? fun entry => entry.1 = symbol).map Prod.snd

/-- A clause as JSON: the field with its entries. -/
def toJson (clause : Clause) : Json :=
  .object [(clause.field, .object (clause.predicate.map fun entry => (entry.1, entry.2.toJson)))]

end Clause

namespace Operator

/-- The clause with the operand under the operator's symbol, and the operator's options after it. -/
def plainClause (operator : Operator) (field : String) (operand : Operand) : Clause where
  field := field
  predicate :=
    (operator.symbol, operand) :: operator.options.map fun option => (option.1, .text option.2)

/-- The clause for a range of instants that includes its start and not its end. -/
def rangeClause (field : String) (start stop : Instant) : Clause where
  field := field
  predicate := [("$gte", .date start), ("$lt", .date stop)]

/-- The clause for an operand. An operator that spans days has the range of a date's day, if the
calendar has a day after it, and is like any other for operands that are no dates. -/
def clause (operator : Operator) (field : String) (operand : Operand) : Clause :=
  match operator.spansDay, operand.instant?.bind Instant.dayBounds? with
  | true, some (start, stop) => rangeClause field start stop
  | _, _ => operator.plainClause field operand

/-- The clauses for an operand: one for each element of an array, unless the operator takes the
array as a whole, and otherwise one. -/
def clauses (operator : Operator) (field : String) (operand : Operand) : List Clause :=
  match operator.spread, operand with
  | .each, .list items => items.map (operator.clause field)
  | _, operand => [operator.clause field operand]

theorem clause_of_not_spansDay {operator : Operator} (h : operator.spansDay = false)
    (field : String) (operand : Operand) :
    operator.clause field operand = operator.plainClause field operand := by
  simp [clause, h]

theorem field_clause (operator : Operator) (field : String) (operand : Operand) :
    (operator.clause field operand).field = field := by
  unfold clause
  split <;> rfl

end Operator

end DocumentQuery
