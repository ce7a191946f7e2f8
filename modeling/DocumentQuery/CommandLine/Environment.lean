import DocumentQuery.Dict
import DocumentQuery.Text.Alphanumeric

/-!
Environment variables, and files that set them.

Such a file has one assignment to a line: a name, an equals sign and a value. A value may be in
quotes, and may refer to variables; inside quotes it may go on over several lines. A `#` after a
blank starts a comment. `EnvFile.read` gives the assignments before the first line that is
malformed, and `Environment.apply` carries them out: a variable that is already set keeps its
value.
-/

namespace DocumentQuery

/-! ## Variables -/

/-- Environment variables. -/
abbrev Environment := Dict String String

/-- A part of a value: a character, or the value of a variable. -/
inductive ValuePart
  | char (c : Char)
  | reference (reference : List Char)

/-- A line that sets a variable. -/
structure Assignment where
  name : String
  value : List ValuePart

/-- The name of a variable and the text after its equals sign, if a reference has one. -/
def splitReference (reference : List Char) : String × Option (List Char) :=
  match reference.span (· != '=') with
  | (name, '=' :: front) => (String.ofList name, some front)
  | (name, _) => (String.ofList name, none)

/-- The names of the variables whose values matter to an assignment. -/
def Assignment.names (assignment : Assignment) : List String :=
  assignment.name :: assignment.value.filterMap fun
    | .char _ => none
    | .reference reference => some (splitReference reference).1

namespace Environment

/-- The text that a reference stands for; a variable that is not set has no text. With a text after
an equals sign, a reference asks for a value that starts with this text and an equals sign, and
stands for the rest of it. -/
def resolve (environment : Environment) (reference : List Char) : List Char :=
  let (name, front?) := splitReference reference
  let value := ((environment.get? name).getD "").toList
  match front? with
  | none => value
  | some front =>
    let front := front ++ ['=']
    if front.isPrefixOf value then value.drop front.length else []

/-- The text of a value. -/
def expand (environment : Environment) (value : List ValuePart) : String :=
  String.ofList (value.flatMap fun
    | .char c => [c]
    | .reference reference => environment.resolve reference)

/-- The environment after an assignment. A variable cannot hold a NUL character; there is no
environment after an assignment of one. -/
def assign (environment : Environment) (assignment : Assignment) : Option Environment :=
  match environment.get? assignment.name with
  | some _ => some environment
  | none =>
    let value := expand environment assignment.value
    if value.toList.contains '\x00' then none
    else some (Dict.insert environment assignment.name value)

/-- The environment after assignments from left to right. -/
def apply (environment : Environment) (assignments : List Assignment) : Option Environment :=
  assignments.foldlM assign environment

end Environment

namespace EnvFile

/-! ## Lines -/

/-- What is open at a place of a file. -/
inductive Quoting
  | plain
  | blank
  | escape
  | single
  | singleEscape
  | double
  | doubleEscape
  deriving DecidableEq

/-- What is open after one more character; nothing when the character starts a comment. -/
def Quoting.next? (quoting : Quoting) (c : Char) : Option Quoting :=
  match quoting with
  | .plain =>
    some <|
      if Text.isBlank c && c != '\n' && c != '\r' then .blank
      else if c = '\\' then .escape
      else if c = '"' then .double
      else if c = '\'' then .single
      else .plain
  | .blank =>
    if c = '#' then none
    else some <|
      if c = '\\' then .escape
      else if c = '"' then .double
      else if c = '\'' then .single
      else .plain
  | .escape => some .plain
  | .single => some (if c = '\\' then .singleEscape else if c = '\'' then .plain else .single)
  | .singleEscape => some .single
  | .double => some (if c = '\\' then .doubleEscape else if c = '"' then .plain else .double)
  | .doubleEscape => some .double

/-- The part of a line before a comment, and what is open at the end of the line; nothing is when
a comment ends it. -/
def beforeComment (quoting : Quoting) : List Char → List Char × Quoting
  | [] => ([], quoting)
  | c :: text =>
    match quoting.next? c with
    | none => ([], .plain)
    | some quoting =>
      let (front, last) := beforeComment quoting text
      (c :: front, last)

/-- The lines of a text, each with its line feed. -/
def lines : List Char → List (List Char)
  | [] => []
  | c :: text =>
    if c = '\n' then ['\n'] :: lines text
    else
      match lines text with
      | [] => [[c]]
      | line :: rest => (c :: line) :: rest

/-- A line without its line feed, and without the carriage return before it. -/
def dropLineEnd (line : List Char) : List Char :=
  match line.reverse with
  | '\n' :: '\r' :: front => front.reverse
  | '\n' :: front => front.reverse
  | _ => line

/-- Lines put together as far as quotes and escapes reach over their ends, without comments. What
is still open at the end of the file is malformed. -/
def entries (pending : List Char) (quoting : Quoting) :
    List (List Char) → List (Option (List Char))
  | [] => if quoting = .plain then [] else [none]
  | line :: rest =>
    let whole := pending ++ line
    if (Text.trimStart whole).head? = some '#' then some [] :: entries [] .plain rest
    else
      let (front, last) := beforeComment quoting line
      if last = .plain then
        some (if front.length = line.length then dropLineEnd whole else pending ++ front) ::
          entries [] .plain rest
      else entries whole last rest

/-! ## Values -/

/-- A reference that is being read. -/
inductive Reference
  | none
  /-- Without braces: the name goes on for as long as letters and numbers of any script follow, so
  that `$a_b` refers to `a`. -/
  | bare (name : List Char)
  | braced (name : List Char)

/-- Where a value is being read. -/
structure Cursor where
  single : Bool := false
  double : Bool := false
  escaped : Bool := false
  /-- After a blank: nothing but blanks and a comment may follow. -/
  ending : Bool := false
  reference : Reference := .none

/-- The character that an escaped character stands for. -/
def unescape? (c : Char) : Option Char :=
  if c = '\\' ∨ c = '\'' ∨ c = '"' ∨ c = '$' ∨ c = ' ' then some c
  else if c = 'n' then some '\n'
  else none

/-- What one character of a value adds to it, and where the reading goes on; nothing when the
value is malformed. -/
def Cursor.next? (cursor : Cursor) (c : Char) : Option (List ValuePart × Cursor) :=
  if cursor.escaped then
    (unescape? c).map fun plain => ([.char plain], { cursor with escaped := false })
  else if cursor.single then
    some (if c = '\'' then ([], { cursor with single := false }) else ([.char c], cursor))
  else
    match cursor.reference with
    | .bare name =>
      if Text.isAlphanumeric c then some ([], { cursor with reference := .bare (name ++ [c]) })
      else if c = '{' ∧ name.isEmpty then some ([], { cursor with reference := .braced [] })
      else if c = '$' then some ([.reference name], { cursor with reference := .bare [] })
      else some ([.reference name, .char c], { cursor with reference := .none })
    | .braced name =>
      if c = '}' then some ([.reference name], { cursor with reference := .none })
      else some ([], { cursor with reference := .braced (name ++ [c]) })
    | .none =>
      some <|
        if c = '$' then ([], { cursor with reference := .bare [] })
        else if c = '\\' then ([], { cursor with escaped := true })
        else if cursor.double then
          if c = '"' then ([], { cursor with double := false }) else ([.char c], cursor)
        else if c = '\'' then ([], { cursor with single := true })
        else if c = '"' then ([], { cursor with double := true })
        else if c = ' ' ∨ c = '\t' then ([], { cursor with ending := true })
        else ([.char c], cursor)

/-- The parts of a value; nothing when it is malformed. -/
def value? (cursor : Cursor) : List Char → Option (List ValuePart)
  | [] =>
    if cursor.single || cursor.double then none
    else
      match cursor.reference with
      | .none => some []
      | .bare name => some [.reference name]
      | .braced _ => none
  | c :: text =>
    if cursor.ending then
      if c = ' ' ∨ c = '\t' then value? cursor text else if c = '#' then some [] else none
    else do
      let (parts, cursor) ← cursor.next? c
      let rest ← value? cursor text
      some (parts ++ rest)

/-! ## Assignments -/

/-- The name of a variable, and the text after it. -/
def takeName? (text : List Char) : Option (List Char × List Char) :=
  match text with
  | c :: _ =>
    if c.isAlpha || c = '_' then
      let inside (c : Char) : Bool := c.isAlphanum || c = '_' || c = '.'
      some (text.takeWhile inside, text.dropWhile inside)
    else none
  | [] => none

/-- The text after an equals sign and the blanks around it. -/
def afterEquals? (text : List Char) : Option (List Char) :=
  match Text.trimStart text with
  | '=' :: rest => some (Text.trimStart rest)
  | _ => none

/-- A name, with the word `export` in front allowed, and the text after its equals sign. -/
def takeTarget? (text : List Char) : Option (List Char × List Char) := do
  let (name, rest) ← takeName? text
  match afterEquals? rest with
  | some value => some (name, value)
  | none =>
    if name = "export".toList then do
      let (name, rest) ← takeName? (Text.trimStart rest)
      let value ← afterEquals? rest
      some (name, value)
    else none

/-- Whether a text is empty or a comment. -/
def isVoid (text : List Char) : Bool :=
  text.isEmpty || text.head? = some '#'

/-- The assignment in an entry, if it has one; nothing when the entry is malformed. -/
def assignment? (entry : List Char) : Option (Option Assignment) :=
  let text := Text.trim entry
  if isVoid text then some none
  else do
    let (name, value) ← takeTarget? text
    let parts ← if isVoid value then some [] else value? {} value
    some (some ⟨String.ofList name, parts⟩)

/-- The assignments before the first malformed entry. -/
def assignments : List (Option (List Char)) → List Assignment
  | some entry :: rest =>
    match assignment? entry with
    | some (some assignment) => assignment :: assignments rest
    | some none => assignments rest
    | none => []
  | _ => []

/-- The assignments in the text of a file. A byte order mark in front is passed over. -/
def read (text : String) : List Assignment :=
  let text := match text.toList with
    | '\ufeff' :: rest => rest
    | text => text
  assignments (entries [] .plain (lines text))

end EnvFile

end DocumentQuery
