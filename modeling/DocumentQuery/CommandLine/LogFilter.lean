import DocumentQuery.Pagination.Numeral
import DocumentQuery.Pattern.Reader
import DocumentQuery.Text.Bytes
import DocumentQuery.Text.Split

/-!
Log filters: which messages are shown.

A filter is a list of directives between commas. A directive is a level, or it names the messages
that it is about and may give a level after an equals sign; without one it shows every level. It
names them by the front of their category, by a field that they have, or by a span of time that they
fall into:

    info
    server::http=warn
    server[{user}]=debug
    [request{id=7}]

The value that is asked of a field is a number or a pattern.

A malformed directive is passed over. For a message counts the directive about it with the longest
category, of those one with a field rather than one without and the greater field rather than the
lesser, and of equal ones the last. A filter without directives shows errors only.
-/

namespace DocumentQuery

namespace LogFilter

/-! ## Levels -/

/-- A level by its rank: a message is shown up to the rank of its directive. -/
abbrev Level := Nat

/-- The rank of errors. -/
def error : Level := 1

/-- The rank of warnings. -/
def warning : Level := 2

/-- The greatest rank. -/
def everything : Level := 5

/-- The names of the levels, by rank. -/
def levelNames : List String :=
  ["off", "error", "warn", "info", "debug", "trace"]

/-- The level that a word names, in upper or lower case, or by its rank. -/
def level? (word : List Char) : Option Level :=
  match Text.readNatural? word with
  | some rank => if rank ≤ everything then some rank else none
  | none => levelNames.findIdx? fun name => name.toList = word.map Char.toLower

/-! ## Fields -/

/-- Whether a text is a number: a decimal numeral, or one of the values that have a name, in upper or
lower case, with a sign allowed in front. -/
def isNumeral (text : List Char) : Bool :=
  let name := (Numeral.takeSign text).2.map Char.toLower
  (Numeral.decimal? text).isSome || ["inf", "infinity", "nan"].any fun value => value.toList = name

/-- The value that is asked of a field: the text after the first equals sign, up to the next. -/
def askedValue? (field : List Char) : Option (List Char) :=
  match Text.split '=' field with
  | _ :: value :: _ => some value
  | _ => none

/-- Whether a text between braces says something of a field. -/
def isField (field : List Char) : Bool :=
  !field.isEmpty && (askedValue? field).all fun value => isNumeral value || Pattern.isPattern value

/-! ## Directives -/

/-- What a filter says about some messages. -/
structure Directive where
  /-- What the category of the messages starts with. -/
  category : Option (List Char) := none
  /-- A field that the messages have. -/
  field : Option (List Char) := none
  /-- Whether it is about messages in certain spans of time only. -/
  withinSpan : Bool := false
  level : Level := everything

/-- Why a text is not a directive. -/
inductive Fault
  | malformed
  /-- A part of it would begin or end inside of a character. -/
  | insideCharacter
  deriving DecidableEq

/-- The part of a directive that is being read, with the byte at which it begins. -/
inductive Part
  | start
  /-- A level or a category. -/
  | word (first : Nat)
  | span (first : Nat)
  | field (first : Nat)
  /-- After the closing brace. -/
  | fieldEnd
  /-- After the closing bracket. -/
  | spanEnd
  | level (first : Nat)

/-- How far a directive has been read. -/
structure Reading where
  part : Part := .start
  directive : Directive := {}

/-- The part of a text between two bytes. -/
def slice (text : List Char) (first last : Nat) : Except Fault (List Char) :=
  match Text.cut? first last text with
  | some part => .ok part
  | none => .error .insideCharacter

/-- Whether a directive can start with a character. -/
def isFirstChar (c : Char) : Bool :=
  Text.isAlphanumeric c || c = '-' || c = ':' || c = '_'

namespace Reading

/-- Read the character at a byte. The parts that it ends are cut out of `text`. -/
def step (text : List Char) (reading : Reading) (byte : Nat) (c : Char) :
    Except Fault Reading :=
  let directive := reading.directive
  match reading.part with
  | .start =>
    if c = '[' then .ok { reading with part := .span (byte + 1) }
    else if isFirstChar c then .ok { reading with part := .word byte }
    else .error .malformed
  | .word first =>
    if c = '=' then do
      let category ← slice text first byte
      .ok ⟨.level (byte + 1), { directive with category }⟩
    else if c = '[' then do
      let category ← slice text first byte
      .ok ⟨.span (byte + 1), { directive with category }⟩
    else .ok reading
  | .span first =>
    if c = ']' then do
      let _ ← slice text first byte
      .ok ⟨.spanEnd, { directive with withinSpan := true }⟩
    else if c = '{' then do
      let name ← slice text first byte
      .ok ⟨.field (byte + 1), { directive with withinSpan := !name.isEmpty }⟩
    else .ok reading
  | .field first =>
    if c = '}' then do
      let field ← slice text first byte
      if isField field then
        -- A value can only be asked of the fields of spans.
        let withinSpan := directive.withinSpan || (askedValue? field).isSome
        .ok ⟨.fieldEnd, { directive with field, withinSpan }⟩
      else .error .malformed
    else .ok reading
  | .fieldEnd => if c = ']' then .ok { reading with part := .spanEnd } else .error .malformed
  | .spanEnd =>
    if c = '=' then .ok { reading with part := .level (byte + 1) } else .error .malformed
  | .level _ => .ok reading

/-- Read characters that begin at a byte. -/
def steps (text : List Char) (reading : Reading) (byte : Nat) :
    List Char → Except Fault Reading
  | [] => .ok reading
  | c :: rest => do
    let next ← reading.step text byte c
    next.steps text (byte + c.utf8Size) rest

/-- The directive that has been read when the characters are at an end. -/
def finish (text : List Char) (reading : Reading) : Except Fault Directive :=
  match reading.part with
  | .word first => do
    let word ← slice text first (Text.byteLength text)
    match level? word with
    | some level => .ok { level }
    | none => .ok { category := word }
  | .level first => do
    let word ← slice text first (Text.byteLength text)
    if word.isEmpty then .ok reading.directive
    else
      match level? word with
      | some level => .ok { reading.directive with level }
      | none => .error .malformed
  | .spanEnd => .ok reading.directive
  | _ => .error .malformed

end Reading

/-- The directive in a text. It is read without the blanks at its two ends, and its parts are found
by their bytes in what is read; but they are cut out of the text as it is. -/
def directive (text : List Char) : Except Fault Directive := do
  let reading ← Reading.steps text {} 0 (Text.trim text)
  reading.finish text

/-! ## Messages -/

/-- What a filter knows of a message. -/
structure Message where
  category : String
  /-- The names of its fields. -/
  fields : List String
  level : Level

namespace Directive

/-- Whether a directive is about a message outside of all spans. -/
def covers (directive : Directive) (message : Message) : Bool :=
  !directive.withinSpan &&
    directive.category.all (fun front => front.isPrefixOf message.category.toList) &&
    directive.field.all (fun field => message.fields.contains (String.ofList field))

/-- How much of a category a directive names. -/
def reach (directive : Directive) : Nat :=
  match directive.category with
  | none => 0
  | some front => front.length + 1

/-- The field of a directive; none comes before all others. -/
def fieldName (directive : Directive) : String :=
  String.ofList (directive.field.getD [])

/-- Whether a directive gives way to a later one about the same message. -/
def yields (directive next : Directive) : Bool :=
  directive.reach < next.reach ||
    directive.reach = next.reach && directive.fieldName ≤ next.fieldName

/-- The one of two directives that counts. -/
def prefer (directive : Option Directive) (next : Directive) : Option Directive :=
  match directive with
  | none => some next
  | some directive => if directive.yields next then some next else some directive

end Directive

end LogFilter

/-! ## Filters -/

/-- A log filter. -/
structure LogFilter where
  directives : List LogFilter.Directive

namespace LogFilter

/-- The directives in texts without the malformed ones. There are none when the parts of a text
cannot be cut out. -/
def directives? : List (List Char) → Option (List Directive)
  | [] => some []
  | text :: texts =>
    match directive text with
    | .ok directive => (directives? texts).map (directive :: ·)
    | .error .malformed => directives? texts
    | .error .insideCharacter => none

/-- The filter that a text spells, if its directives can be cut out. -/
def read? (text : String) : Option LogFilter :=
  (directives? (Text.split ',' text.toList)).map fun directives => { directives }

/-- Whether a filter shows a message. -/
def shows (filter : LogFilter) (message : Message) : Bool :=
  match (filter.directives.filter (·.covers message)).foldl Directive.prefer none with
  | some directive => message.level ≤ directive.level
  | none => filter.directives.isEmpty && message.level ≤ error

end LogFilter

end DocumentQuery
