import DocumentQuery.Text.Blank
import DocumentQuery.Text.Decimal

/-!
The smallest parts of patterns: characters, sets of characters and places.

A pattern is a regular expression. It is read in a `Mode`, which flags in the pattern change. With
the flag `u` a pattern is about characters; without it, it is about bytes, and what would match only
a part of a character is malformed. With the flag `x`, blanks and comments between the parts do not
count.

A pattern is part of a text in braces and so has no closing brace after an opening one. Hence
repetitions with a number and names in braces do not occur, and an opening brace stands for itself in
a character class and is malformed elsewhere.
-/

namespace DocumentQuery.Pattern

/-! ## Modes -/

/-- How the parts of a pattern are read. -/
structure Mode where
  /-- Flag `u`: the pattern is about characters and not about bytes. -/
  characters : Bool := true
  /-- Flag `x`: blanks and comments may stand between the parts. -/
  spaced : Bool := false

/-- The text without the blanks and comments in front. A comment goes from a number sign to the end
of the line. -/
def skipBlanks (inComment : Bool) : List Char → List Char
  | [] => []
  | c :: text =>
    if inComment then skipBlanks (c != '\n') text
    else if c = '#' then skipBlanks true text
    else if Text.isBlank c then skipBlanks false text
    else c :: text

namespace Mode

/-- The text from the next part on. -/
def skip (mode : Mode) (text : List Char) : List Char :=
  if mode.spaced then skipBlanks false text else text

/-- The mode after a flag is put on or off. The other flags do not change what a pattern is. -/
def set (mode : Mode) (flag : Char) (on : Bool) : Mode :=
  if flag = 'u' then { mode with characters := on }
  else if flag = 'x' then { mode with spaced := on }
  else mode

/-- Whether a character has one byte if that matters. -/
def allows (mode : Mode) (c : Char) : Bool :=
  mode.characters || c.toNat < 0x80

end Mode

/-! ## Escapes -/

/-- A smallest part of a pattern. -/
inductive Atom
  /-- A character that stands for itself. -/
  | char (c : Char)
  /-- A set of characters that has a name. -/
  | set
  /-- A place between two characters. -/
  | place

/-- The number that `count` hexadecimal digits add to the digits before them, and the text after
them. -/
def takeHex? (mode : Mode) : Nat → Nat → List Char → Option (Nat × List Char)
  | 0, value, text => some (value, text)
  | count + 1, value, text =>
    match mode.skip text with
    | [] => none
    | c :: text => do
      let digit ← Text.digitOfRadix? 16 c
      takeHex? mode count (16 * value + digit) text

/-- The character with a code point, which must not be half of a pair. -/
def character? (code : Nat) : Option Char :=
  if code < 0xd800 ∨ 0xdfff < code ∧ code < 0x110000 then some (Char.ofNat code) else none

/-- A character by its code point in `count` hexadecimal digits. -/
def takeCode? (mode : Mode) (count : Nat) (text : List Char) : Option (Atom × List Char) := do
  let (code, rest) ← takeHex? mode count 0 text
  let c ← character? code
  some (.char c, rest)

/-- The letters of the general categories, large and small. -/
def categories : List Char :=
  "CLMNPSZclmnpsz".toList

/-- The characters of a general category, by its letter. -/
def takeCategory? (mode : Mode) (text : List Char) : Option (Atom × List Char) :=
  match mode.skip text with
  | c :: rest => if mode.characters && categories.contains c then some (.set, rest) else none
  | [] => none

/-- The control character that a letter stands for. -/
def control? : Char → Option Char
  | 'a' => some '\x07'
  | 'f' => some '\x0c'
  | 'n' => some '\n'
  | 'r' => some '\r'
  | 't' => some '\t'
  | 'v' => some '\x0b'
  | _ => none

/-- The part that begins with a backslash, given the text after it, and the text after the part. A
complement and a word boundary may not look at bytes that are parts of a character; a word boundary
between characters is not supported. -/
def takeEscape? (mode : Mode) : List Char → Option (Atom × List Char)
  | [] => none
  | c :: text =>
    match c with
    | 'x' => do
      let (atom, rest) ← takeCode? mode 2 text
      match atom with
      | .char byte => if mode.allows byte then some (atom, rest) else none
      | _ => none
    | 'u' => takeCode? mode 4 text
    | 'U' => takeCode? mode 8 text
    | 'p' | 'P' => takeCategory? mode text
    | 'd' | 's' | 'w' => some (.set, text)
    | 'D' | 'S' | 'W' => if mode.characters then some (.set, text) else none
    | 'A' | 'z' => some (.place, text)
    | 'b' | 'B' | '<' | '>' => if mode.characters then none else some (.place, text)
    | c =>
      match control? c with
      | some plain => some (.char plain, text)
      | none => if c.isAlphanum || 0x80 ≤ c.toNat then none else some (.char c, text)

end DocumentQuery.Pattern
