import DocumentQuery.Binary64.Basic

/-!
JSON values.

A number is a whole number or a binary64 number. The members of an object are a list: it keeps
their order, and nothing in the type forbids a name to occur twice.
-/

namespace DocumentQuery

/-- A JSON value. -/
inductive Json
  | null
  | bool (value : Bool)
  | integer (value : Int)
  | float (value : Binary64)
  | string (value : String)
  | array (items : List Json)
  | object (members : List (String × Json))

namespace Json

instance : Inhabited Json :=
  ⟨.null⟩

/-- The name of a value's kind. -/
def kind : Json → String
  | .null => "null"
  | .bool _ => "boolean"
  | .integer _ => "number"
  | .float _ => "number"
  | .string _ => "string"
  | .array _ => "array"
  | .object _ => "object"

/-- Whether the value has no parts. -/
def isScalar : Json → Bool
  | .array _ => false
  | .object _ => false
  | _ => true

end Json

end DocumentQuery
