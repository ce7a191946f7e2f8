import DocumentQuery.Operand.Interpretation

/-!
The filter operators.

Each operator has a tag, by which keys name it, and a symbol, under which its operand stands in a
clause. In the plain case it has no options and no transform, and an array of operands gives one
clause for each.
-/

namespace DocumentQuery

/-- A filter operator. -/
inductive Operator
  | eq
  | ne
  | contains
  | lt
  | lte
  | gt
  | gte
  | within
  | existence
  | eqInt
  | eqDate
  deriving DecidableEq

/-- What an operator makes of an array of operands. -/
inductive Spread
  /-- One clause for each element. -/
  | each
  /-- One clause for the whole array. -/
  | whole
  deriving DecidableEq

/-- The name of a treatment of arrays. -/
def Spread.name : Spread → String
  | .each => "per-element"
  | .whole => "whole-value"

namespace Operator

/-! ## Tags -/

/-- The operators in the order in which they are listed. -/
def all : List Operator :=
  [eq, ne, contains, lt, lte, gt, gte, within, existence, eqInt, eqDate]

/-- The name of an operator in keys. -/
def tag : Operator → String
  | eq => "eq"
  | ne => "ne"
  | contains => "contains"
  | lt => "lt"
  | lte => "lte"
  | gt => "gt"
  | gte => "gte"
  | within => "in"
  | existence => "exists"
  | eqInt => "eqInt"
  | eqDate => "eqDate"

/-- The operator with a tag; upper and lower case differ. -/
def ofTag? (tag : String) : Option Operator :=
  all.find? fun operator => operator.tag = tag

theorem ofTag?_tag (operator : Operator) : ofTag? operator.tag = some operator := by
  cases operator <;> decide

theorem tag_of_ofTag? {tag : String} {operator : Operator} (h : ofTag? tag = some operator) :
    operator.tag = tag := by
  simpa using List.find?_some h

/-- No tag has a point in it. -/
theorem point_not_mem_tag (operator : Operator) : '.' ∉ operator.tag.toList := by
  cases operator <;> decide

/-! ## Properties -/

/-- The symbol under which the operand stands. A range of days has two symbols of its own, and this
one only where the operand is no date. -/
def symbol : Operator → String
  | eq => "$eq"
  | ne => "$ne"
  | contains => "$regex"
  | lt => "$lt"
  | lte => "$lte"
  | gt => "$gt"
  | gte => "$gte"
  | within => "$in"
  | existence => "$exists"
  | eqInt => "$eq"
  | eqDate => "$eq"

/-- Fixed entries of every clause, after the operand. -/
def options : Operator → List (String × String)
  | contains => [("$options", "i")]
  | _ => []

/-- What is done to an operand before its texts are looked at. -/
def transform? : Operator → Option Transform
  | within => some .inPieces
  | existence => some .presence
  | eqInt => some .wholeNumber
  | _ => none

/-- Whether a date stands for all of its day. -/
def spansDay : Operator → Bool
  | eqDate => true
  | _ => false

/-- What becomes of an array of operands. -/
def spread : Operator → Spread
  | within => .whole
  | _ => .each

end Operator

end DocumentQuery
