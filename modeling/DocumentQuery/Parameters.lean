import DocumentQuery.Dict
import DocumentQuery.Json.Printer
import DocumentQuery.Json.Reader
import DocumentQuery.Text.Split

/-!
Request parameters.

A request names each parameter once or several times, or gives it explicitly no value. `Parameters`
keeps the names in the order in which they first came. They are collected from name-value pairs or
taken from a JSON object; a repeated name in the pairs and an array in the object mean the same.
-/

namespace DocumentQuery

/-! ## Raw values -/

/-- What a request gives for one parameter. -/
inductive RawValue
  | null
  | single (text : String)
  | multiple (texts : List String)
  deriving DecidableEq

namespace RawValue

instance : Inhabited RawValue :=
  ⟨.null⟩

/-- The value as one text: several texts are joined with commas, and no value gives none. -/
def scalar? : RawValue → Option String
  | .null => none
  | .single text => some text
  | .multiple texts => some (Text.joined ',' texts)

/-- The texts that the value holds when one more is to be added: no value counts as the text
`null`. -/
def texts : RawValue → List String
  | .null => ["null"]
  | .single text => [text]
  | .multiple texts => texts

/-- The value with one more text at the end. -/
def push (value : RawValue) (text : String) : RawValue :=
  .multiple (value.texts ++ [text])

end RawValue

/-! ## Parameters -/

/-- The parameters of a request, by name. -/
abbrev Parameters := Dict String RawValue

namespace Parameters

/-- Add one occurrence of a name: the first gives a single text, the later ones add to it. -/
def append (parameters : Parameters) (name text : String) : Parameters :=
  Dict.alter parameters name fun
    | none => .single text
    | some value => value.push text

/-- Collect name-value pairs from left to right. -/
def ofPairs (pairs : List (String × String)) : Parameters :=
  pairs.foldl (fun parameters pair => append parameters pair.1 pair.2) Dict.empty

/-- The value of a name as one text; nothing when the name is absent or has no value. -/
def scalar? (parameters : Parameters) (name : String) : Option String :=
  (Dict.get? parameters name).bind RawValue.scalar?

theorem get?_append (parameters : Parameters) (name other text : String) :
    (parameters.append name text).get? other =
      if other = name then
        some (match parameters.get? name with
          | none => .single text
          | some value => value.push text)
      else parameters.get? other := by
  rw [append, Dict.get?_alter]

theorem keys_append (parameters : Parameters) (name text : String) :
    (parameters.append name text).keys =
      if name ∈ parameters.keys then parameters.keys else parameters.keys ++ [name] :=
  Dict.keys_alter parameters name _

end Parameters

/-! ## From JSON -/

/-- Why a JSON value is not a set of parameters. -/
inductive ParametersError
  | notAnObject (kind : String)
  | unsupportedValue (name : String)
  deriving DecidableEq

/-- The text of an error. -/
def ParametersError.message : ParametersError → String
  | .notAnObject kind => "Query map must be a JSON object, got " ++ kind
  | .unsupportedValue name =>
    "Unsupported value for key '" ++ name ++ "': expected a scalar or an array of scalars"

namespace Json

/-- The text of a scalar: a string is its own text, any other scalar is written as JSON. -/
def scalarText? (value : Json) : Option String :=
  match value with
  | .string text => some text
  | .array _ => none
  | .object _ => none
  | value => some value.compact

/-- The raw value that a JSON value gives a parameter: a scalar or an array of scalars. -/
def rawValue? : Json → Option RawValue
  | .null => some .null
  | .array items => (items.mapM scalarText?).map .multiple
  | value => value.scalarText?.map .single

end Json

namespace Parameters

/-- The raw values of members, up to the first that has none. -/
def rawValues : List (String × Json) → Except ParametersError (List (String × RawValue))
  | [] => .ok []
  | (name, value) :: members =>
    match value.rawValue? with
    | none => .error (.unsupportedValue name)
    | some raw => (rawValues members).map ((name, raw) :: ·)

/-- The parameters of a JSON object, in the order of its members. Of a repeated name the first
place and the last value count. -/
def ofJson : Json → Except ParametersError Parameters
  | .object members => (rawValues (Dict.ofList members).entries).map Dict.ofList
  | value => .error (.notAnObject value.kind)

end Parameters

/-! ## From text -/

/-- Why a text does not give parameters. -/
inductive Parameters.ReadError
  /-- It is not the text of a JSON value. -/
  | malformed
  /-- It starts with a JSON value that is not a set of parameters. -/
  | unsuitable (error : ParametersError)
  deriving DecidableEq

/-- The parameters in a JSON text. Whether the value is a set of parameters is looked at before what
follows it, so of two faults the one in the value counts. -/
def Parameters.read (text : String) : Except ReadError Parameters :=
  match Json.take? text.toList with
  | none => .error .malformed
  | some (value, rest) =>
    match ofJson value with
    | .error error => .error (.unsuitable error)
    | .ok parameters =>
      if (Json.skipSpaces rest).isEmpty then .ok parameters else .error .malformed

end DocumentQuery
