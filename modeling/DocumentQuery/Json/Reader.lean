import DocumentQuery.Json.Document

/-!
Reading JSON documents.

Each `take` function reads one part from the front of a text and gives it together with the text
after it. `Document.take?` reads a document and leaves what follows it, `Document.read?` wants the
whole text to be one, and `Json.take?` gives the value of a document at the front of a text.
-/

namespace DocumentQuery.Json

/-! ## Blanks and strings -/

/-- Whether a character may stand between tokens. -/
def isSpace (c : Char) : Bool :=
  c == ' ' || c == '\t' || c == '\n' || c == '\r'

/-- The text without the spaces in front of the next token. -/
def skipSpaces (text : List Char) : List Char :=
  text.dropWhile isSpace

/-- The code unit of four hexadecimal digits. -/
def codeUnit? (digits : List Char) : Option Nat := do
  let values ← digits.mapM (Text.digitOfRadix? 16)
  some (values.foldl (fun code value => 16 * code + value) 0)

/-- The character that a letter after a backslash stands for. -/
def unescape? : Char → Option Char
  | '"' => some '"'
  | '\\' => some '\\'
  | '/' => some '/'
  | 'b' => some '\x08'
  | 'f' => some '\x0c'
  | 'n' => some '\n'
  | 'r' => some '\r'
  | 't' => some '\t'
  | _ => none

/-- The glyphs up to the closing quote. -/
def takeGlyphs? : List Char → Option (List Glyph × List Char)
  | [] => none
  | '"' :: text => some ([], text)
  | '\\' :: 'u' :: a :: b :: c :: d :: text => do
    let code ← codeUnit? [a, b, c, d]
    let (glyphs, rest) ← takeGlyphs? text
    some (.unit code :: glyphs, rest)
  | '\\' :: c :: text => do
    let plain ← unescape? c
    let (glyphs, rest) ← takeGlyphs? text
    some (.plain plain :: glyphs, rest)
  | c :: text =>
    if c = '\\' ∨ c.toNat < 0x20 then none
    else do
      let (glyphs, rest) ← takeGlyphs? text
      some (.plain c :: glyphs, rest)

/-! ## Numerals -/

/-- One or more digits. -/
def takeDigits? (text : List Char) : Option (List Char × List Char) :=
  let digits := text.takeWhile Char.isDigit
  if digits.isEmpty then none else some (digits, text.dropWhile Char.isDigit)

/-- The digits before the point: no other digit follows a leading zero. -/
def takeWhole? (text : List Char) : Option (List Char × List Char) := do
  let (digits, rest) ← takeDigits? text
  match digits with
  | '0' :: _ :: _ => none
  | _ => some (digits, rest)

/-- The point and the digits after it, if there is one. -/
def takeFraction? : List Char → Option (Option (List Char) × List Char)
  | '.' :: text => (takeDigits? text).map fun (digits, rest) => (some digits, rest)
  | text => some (none, text)

/-- The exponent, if there is one. -/
def takeExponent? : List Char → Option (Option Int × List Char)
  | c :: text =>
    if c = 'e' ∨ c = 'E' then
      match text with
      | '-' :: text => (takeDigits? text).map fun (digits, rest) =>
          (some (-(Text.digitsValue digits : Int)), rest)
      | '+' :: text => (takeDigits? text).map fun (digits, rest) =>
          (some (Text.digitsValue digits : Int), rest)
      | text => (takeDigits? text).map fun (digits, rest) =>
          (some (Text.digitsValue digits : Int), rest)
    else some (none, c :: text)
  | [] => some (none, [])

/-- A numeral. -/
def takeNumeral? (text : List Char) : Option (Numeral × List Char) := do
  let (negative, text) := match text with
    | '-' :: text => (true, text)
    | _ => (false, text)
  let (whole, text) ← takeWhole? text
  let (fraction, text) ← takeFraction? text
  let (exponent, text) ← takeExponent? text
  some (⟨negative, whole, fraction, exponent⟩, text)

/-! ## Documents -/

namespace Document

mutual

/-- A document after any spaces. The number bounds the depth of the calls; twice the length of the
text is enough, since two calls in a row take at least one character. -/
def takeWithin? : Nat → List Char → Option (Document × List Char)
  | 0, _ => none
  | fuel + 1, text =>
    match skipSpaces text with
    | 'n' :: 'u' :: 'l' :: 'l' :: text => some (.null, text)
    | 't' :: 'r' :: 'u' :: 'e' :: text => some (.bool true, text)
    | 'f' :: 'a' :: 'l' :: 's' :: 'e' :: text => some (.bool false, text)
    | '"' :: text => (takeGlyphs? text).map fun (glyphs, rest) => (.string glyphs, rest)
    | '[' :: text =>
      match skipSpaces text with
      | ']' :: text => some (.array [], text)
      | text => (takeItems? fuel text).map fun (items, rest) => (.array items, rest)
    | '{' :: text =>
      match skipSpaces text with
      | '}' :: text => some (.object [], text)
      | text => (takeMembers? fuel text).map fun (members, rest) => (.object members, rest)
    | text => (takeNumeral? text).map fun (numeral, rest) => (.number numeral, rest)

/-- One or more items with commas between them, and the closing bracket. -/
def takeItems? : Nat → List Char → Option (List Document × List Char)
  | 0, _ => none
  | fuel + 1, text => do
    let (item, text) ← takeWithin? fuel text
    match skipSpaces text with
    | ']' :: text => some ([item], text)
    | ',' :: text => do
      let (items, rest) ← takeItems? fuel text
      some (item :: items, rest)
    | _ => none

/-- One or more members with commas between them, and the closing brace. -/
def takeMembers? : Nat → List Char → Option (List (List Glyph × Document) × List Char)
  | 0, _ => none
  | fuel + 1, text =>
    match skipSpaces text with
    | '"' :: text => do
      let (name, text) ← takeGlyphs? text
      match skipSpaces text with
      | ':' :: text => do
        let (member, text) ← takeWithin? fuel text
        match skipSpaces text with
        | '}' :: text => some ([(name, member)], text)
        | ',' :: text => do
          let (members, rest) ← takeMembers? fuel text
          some ((name, member) :: members, rest)
        | _ => none
      | _ => none
    | _ => none

end

/-- The document at the front of a text, and the text after it. -/
def take? (text : List Char) : Option (Document × List Char) :=
  takeWithin? (2 * text.length + 2) text

/-- The document that the whole text is. -/
def read? (text : String) : Option Document := do
  let (document, rest) ← take? text.toList
  if (skipSpaces rest).isEmpty then some document else none

end Document

/-- The value that the front of a text spells, and the text after it. -/
def take? (text : List Char) : Option (Json × List Char) := do
  let (document, rest) ← Document.take? text
  let value ← document.value? Document.greatestDepth
  some (value, rest)

end DocumentQuery.Json
