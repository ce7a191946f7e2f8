import DocumentQuery.Binary64.Shortest
import DocumentQuery.Json.Basic
import DocumentQuery.Text.Decimal

/-!
JSON values as text.

A `Layout` says what stands between the tokens; `Layout.compact` puts nothing there and
`Layout.indented` one item to a line. In strings only the quote, the backslash and the control
characters below U+0020 are escaped. A binary64 number is written with the fewest digits that read
back, and one that is not finite as `null`.
-/

namespace DocumentQuery.Json

/-! ## Strings -/

/-- A hexadecimal digit; those above nine are small letters. -/
def hexDigit (n : Nat) : Char :=
  Nat.digitChar n

/-- A character inside quotes. -/
def escape (c : Char) : List Char :=
  match c with
  | '"' => ['\\', '"']
  | '\\' => ['\\', '\\']
  | '\x08' => ['\\', 'b']
  | '\t' => ['\\', 't']
  | '\n' => ['\\', 'n']
  | '\x0c' => ['\\', 'f']
  | '\r' => ['\\', 'r']
  | c =>
    if c.toNat < 0x20 then ['\\', 'u', '0', '0', hexDigit (c.toNat / 16), hexDigit (c.toNat % 16)]
    else [c]

/-- A string between its quotes. -/
def quoted (text : List Char) : List Char :=
  '"' :: text.flatMap escape ++ ['"']

/-! ## Numbers -/

/-- Numbers are written without an exponent when the power of ten of their first digit lies in this
range. -/
def positionalExponents : Int × Int := (-5, 15)

/-- A positive decimal as text. Without an exponent there is always a digit on each side of the
point; with one, the point comes after the first digit and the exponent has a sign. -/
def decimalText (decimal : Binary64.Decimal) : List Char :=
  let digits := Text.natural decimal.coefficient
  let first : Int := decimal.exponent + digits.length - 1
  if positionalExponents.1 ≤ first ∧ first ≤ positionalExponents.2 then
    if 0 ≤ decimal.exponent then
      digits ++ List.replicate decimal.exponent.toNat '0' ++ ['.', '0']
    else if 0 ≤ first then
      digits.take (first.toNat + 1) ++ '.' :: digits.drop (first.toNat + 1)
    else '0' :: '.' :: List.replicate (-first - 1).toNat '0' ++ digits
  else
    let mantissa := match digits with
      | lead :: d :: rest => lead :: '.' :: d :: rest
      | _ => digits
    mantissa ++ 'e' :: (if first < 0 then '-' else '+') :: Text.natural first.natAbs

/-- A binary64 number as text. -/
def floatText : Binary64 → List Char
  | .finite negative significand exponent _ =>
    let magnitude :=
      if significand = 0 then ['0', '.', '0']
      else match Binary64.shortest? significand exponent with
        | some decimal => decimalText decimal
        | none => []
    if negative then '-' :: magnitude else magnitude
  | _ => ['n', 'u', 'l', 'l']

/-! ## Values -/

/-- What is written between the tokens of arrays and objects. -/
structure Layout where
  /-- Before an item, and before the closing bracket of a container that is not empty; the number
  is the nesting depth. -/
  lineBreak : Nat → List Char
  /-- After the colon of a member. -/
  afterColon : List Char

/-- Nothing between the tokens. -/
def Layout.compact : Layout where
  lineBreak _ := []
  afterColon := []

/-- Each item on a line of its own, two spaces to a level, and a space after a colon. -/
def Layout.indented : Layout where
  lineBreak depth := '\n' :: List.replicate (2 * depth) ' '
  afterColon := [' ']

mutual

/-- A value at a nesting depth. -/
def write (layout : Layout) (depth : Nat) : Json → List Char
  | .null => ['n', 'u', 'l', 'l']
  | .bool true => ['t', 'r', 'u', 'e']
  | .bool false => ['f', 'a', 'l', 's', 'e']
  | .integer n => Text.integer n
  | .float x => floatText x
  | .string text => quoted text.toList
  | .array [] => ['[', ']']
  | .array (item :: items) =>
    '[' :: layout.lineBreak (depth + 1) ++ write layout (depth + 1) item ++
      writeItems layout depth items
  | .object [] => ['{', '}']
  | .object ((name, value) :: members) =>
    '{' :: layout.lineBreak (depth + 1) ++ quoted name.toList ++ ':' :: layout.afterColon ++
      write layout (depth + 1) value ++ writeMembers layout depth members

/-- The items of an array after one that is written, and the closing bracket. -/
def writeItems (layout : Layout) (depth : Nat) : List Json → List Char
  | [] => layout.lineBreak depth ++ [']']
  | item :: items =>
    ',' :: layout.lineBreak (depth + 1) ++ write layout (depth + 1) item ++
      writeItems layout depth items

/-- The members of an object after one that is written, and the closing brace. -/
def writeMembers (layout : Layout) (depth : Nat) : List (String × Json) → List Char
  | [] => layout.lineBreak depth ++ ['}']
  | (name, value) :: members =>
    ',' :: layout.lineBreak (depth + 1) ++ quoted name.toList ++ ':' :: layout.afterColon ++
      write layout (depth + 1) value ++ writeMembers layout depth members

end

/-- The text of a value without spaces. -/
def compact (value : Json) : String :=
  String.ofList (write .compact 0 value)

/-- The text of a value on indented lines. -/
def pretty (value : Json) : String :=
  String.ofList (write .indented 0 value)

end DocumentQuery.Json
