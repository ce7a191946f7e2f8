import DocumentQuery.Pattern.Atom

/-!
Character classes: sets of characters in brackets.

A class lists characters, ranges of characters, sets with a name and other classes. Signs between
such lists stand for the intersection, the difference and the symmetric difference of two of them.
Of a class no more is kept than how deep it is nested.
-/

namespace DocumentQuery.Pattern

/-- How deep parts are nested of which each has the given depth; several of them in a row are one
level deeper than the deepest. -/
def rowDepth : List Nat → Nat
  | [] => 0
  | [depth] => depth
  | depths => 1 + depths.foldl max 0

/-- What has been read of a character class. -/
structure ClassReading where
  /-- Whether nothing but hyphens have been read, which then stand for themselves. -/
  atStart : Bool := true
  /-- The depth of the operation in front of the last operator. -/
  left : Option Nat := none
  /-- The depths of what has been listed after the last operator. -/
  items : List Nat := []

namespace ClassReading

/-- Another item in the list. -/
def add (reading : ClassReading) (depth : Nat) : ClassReading :=
  { reading with atStart := false, items := depth :: reading.items }

/-- The depth of what has been read. -/
def depth (reading : ClassReading) : Nat :=
  match reading.left with
  | none => rowDepth reading.items
  | some left => 1 + max left (rowDepth reading.items)

/-- An operator, after which a new list begins. -/
def operator (reading : ClassReading) : ClassReading where
  atStart := false
  left := some reading.depth

end ClassReading

namespace CharacterClass

/-! ## Items -/

/-- The names of sets of ASCII characters. -/
def names : List String :=
  ["alnum", "alpha", "ascii", "blank", "cntrl", "digit", "graph", "lower", "print", "punct", "space",
    "upper", "word", "xdigit"]

/-- A set by its name between colons, given the text after its opening bracket: whether it is the
complement that is meant, and the text after the set. -/
def takeNamed? : List Char → Option (Bool × List Char)
  | ':' :: text =>
    let (complement, text) := match text with
      | '^' :: text => (true, text)
      | _ => (false, text)
    match text.span (· != ':') with
    | (name, ':' :: ']' :: rest) =>
      if names.contains (String.ofList name) then some (complement, rest) else none
    | _ => none
  | _ => none

/-- A character or a set with a name. -/
def takeAtom? (mode : Mode) : List Char → Option (Atom × List Char)
  | '\\' :: text => takeEscape? mode text
  | c :: text => some (.char c, text)
  | [] => none

/-- The character after a hyphen, which decides whether the hyphen makes a range. The sign of a
comment is passed over, the comment is not. -/
def afterHyphen? (mode : Mode) (text : List Char) : Option Char :=
  if mode.spaced then
    match Text.trimStart text with
    | '#' :: comment => (Text.trimStart comment).head?
    | text => text.head?
  else text.head?

/-- The text after a single item, which is no place between characters. -/
def single? (mode : Mode) (atom : Atom) (rest : List Char) : Option (List Char) :=
  match atom with
  | .char c => if mode.allows c then some rest else none
  | .set => some rest
  | .place => none

/-- The text after an item: a character, a set with a name, or a range of characters in order. -/
def afterItem? (mode : Mode) (text : List Char) : Option (List Char) := do
  let (first, rest) ← takeAtom? mode text
  match mode.skip rest with
  | '-' :: after =>
    if afterHyphen? mode after = some ']' ∨ afterHyphen? mode after = some '-' then
      single? mode first ('-' :: after)
    else do
      let (last, rest) ← takeAtom? mode (mode.skip after)
      match first, last with
      | .char low, .char high =>
        if mode.allows low && mode.allows high && low.toNat ≤ high.toNat then some rest else none
      | _, _ => none
  | rest => single? mode first rest

/-! ## Classes -/

/-- The text of a class after the sign of a complement, if it has one. A complement of bytes would
match parts of characters. -/
def afterComplement? (mode : Mode) (text : List Char) : Option (List Char) :=
  match mode.skip text with
  | '^' :: text => if mode.characters then some text else none
  | text => some text

/-- The rest of a class up to its closing bracket: its depth, and the text after it. A closing
bracket that comes first stands for itself. The number bounds the depth of the calls, of which each
takes at least one character. -/
def take? (mode : Mode) : Nat → ClassReading → List Char → Option (Nat × List Char)
  | 0, _, _ => none
  | fuel + 1, reading, text =>
    match mode.skip text with
    | [] => none
    | ']' :: rest =>
      if reading.atStart && reading.items.isEmpty then take? mode fuel (reading.add 0) rest
      else some (1 + reading.depth, rest)
    | '[' :: inner =>
      match takeNamed? inner with
      | some (complement, rest) =>
        if complement && !mode.characters then none else take? mode fuel (reading.add 0) rest
      | none => do
        let inner ← afterComplement? mode inner
        let (depth, rest) ← take? mode fuel {} inner
        take? mode fuel (reading.add depth) rest
    | c :: rest =>
      if c = '-' && reading.atStart then
        take? mode fuel { reading.add 0 with atStart := true } rest
      else if (c = '&' || c = '-' || c = '~') && rest.head? = some c then
        take? mode fuel reading.operator rest.tail
      else do
        let rest ← afterItem? mode (c :: rest)
        take? mode fuel (reading.add 0) rest

end CharacterClass

/-- The depth of the character class that begins with a bracket, given the text after it, and the
text after the class. -/
def takeClass? (mode : Mode) (text : List Char) : Option (Nat × List Char) := do
  let inner ← CharacterClass.afterComplement? mode text
  CharacterClass.take? mode (inner.length + 1) {} inner

end DocumentQuery.Pattern
