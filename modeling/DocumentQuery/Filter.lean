import DocumentQuery.Clause
import DocumentQuery.FieldKey
import DocumentQuery.Settings.Basic

/-!
Filters: all clauses of a request under one connective.

Every parameter that is not reserved gives a block of clauses, which depends on its name and its raw
value alone. The filter is the blocks in the order of the parameters; without any clause it is
empty.
-/

namespace DocumentQuery

/-! ## Connectives and expressions -/

/-- How the clauses of a filter are joined. -/
inductive Connective
  | all
  | any
  deriving DecidableEq

namespace Connective

/-- The name of a connective. -/
def name : Connective → String
  | all => "and"
  | any => "or"

/-- The symbol of a connective in a filter. -/
def symbol : Connective → String
  | all => "$and"
  | any => "$or"

/-- The connective that a raw value chooses: `any` for the text `or`, and `all` for everything
else. -/
def ofRaw? (value : Option RawValue) : Connective :=
  if value.bind RawValue.scalar? = some "or" then any else all

end Connective

/-- A filter: nothing, or one or more clauses under a connective. -/
inductive Filter
  | empty
  | group (connective : Connective) (first : Clause) (rest : List Clause)
  deriving DecidableEq

namespace Filter

/-- The filter with the given clauses. -/
def ofClauses (connective : Connective) : List Clause → Filter
  | [] => empty
  | first :: rest => group connective first rest

/-- The clauses in order. -/
def clauses : Filter → List Clause
  | empty => []
  | group _ first rest => first :: rest

/-- The connective, if there are clauses. -/
def connective? : Filter → Option Connective
  | empty => none
  | group connective _ _ => some connective

/-- Whether there is no clause. -/
def isEmpty : Filter → Bool
  | empty => true
  | group .. => false

/-- A filter as JSON. -/
def toJson : Filter → Json
  | empty => .object []
  | group connective first rest =>
    .object [(connective.symbol, .array ((first :: rest).map Clause.toJson))]

@[simp] theorem clauses_ofClauses (connective : Connective) (clauses : List Clause) :
    (ofClauses connective clauses).clauses = clauses := by
  cases clauses <;> rfl

/-! ## Blocks -/

/-- The clauses of one parameter. -/
def block (key : String) (value : RawValue) : List Clause :=
  let classified := FieldKey.ofString key
  let operand := Operand.typed classified.operator.transform? (Operand.ofRaw value)
  classified.operator.clauses classified.field operand

/-- The clauses of all parameters that are not reserved. -/
def blocks (settings : Settings) (parameters : Parameters) : List Clause :=
  (parameters.entries.filter fun entry => !settings.reserves entry.1).flatMap fun entry =>
    block entry.1 entry.2

/-- The filter of a request. -/
def ofParameters (settings : Settings) (parameters : Parameters) : Filter :=
  ofClauses (Connective.ofRaw? (parameters.get? settings.operatorKey)) (blocks settings parameters)

theorem clauses_ofParameters (settings : Settings) (parameters : Parameters) :
    (ofParameters settings parameters).clauses = blocks settings parameters :=
  clauses_ofClauses _ _

end Filter

end DocumentQuery
