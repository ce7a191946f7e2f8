import DocumentQuery.Pattern.CharacterClass
import DocumentQuery.Text.Alphabetic

/-!
Which texts are patterns.

A pattern is made of alternatives, and these of parts in a row: characters, sets, places, character
classes and groups, each of which may be repeated. A group may have a name, which no other group has,
and flags; flags without a group change the mode up to the end of the group that they are in. Groups
that look around are not supported, and the nesting must not be deeper than `deepest`.

Nothing is matched here, so no more is kept of a part than how deep it is nested.
-/

namespace DocumentQuery.Pattern

/-- How deep the parts of a pattern may be nested. -/
def deepest : Nat := 250

/-! ## The openings of groups -/

/-- What an opening bracket begins. -/
inductive Opening
  /-- Flags alone, with the mode after them. -/
  | flags (mode : Mode)
  /-- A group, with the mode in it. -/
  | group (mode : Mode) (name : Option (List Char))

/-- Whether a text can be the name of a group. -/
def isGroupName : List Char → Bool
  | [] => false
  | c :: name =>
    (c = '_' || Text.isAlphabetic c) &&
      name.all fun c => c = '_' || c = '.' || c = '[' || c = ']' || Text.isAlphanumeric c

/-- The name of a group up to its closing angle bracket. -/
def takeGroupName? (mode : Mode) (text : List Char) : Option (Opening × List Char) :=
  match text.span (· != '>') with
  | (name, '>' :: rest) => if isGroupName name then some (.group mode name, rest) else none
  | _ => none

/-- Flags and what they are for, given those that have been read, the last in front. A flag stands
once at most; those after a hyphen are put off. -/
def takeFlags? (mode : Mode) (seen : List Char) : List Char → Option (Opening × List Char)
  | [] => none
  | c :: rest =>
    if c = ':' then
      if seen.head? = some '-' then none else some (.group mode none, rest)
    else if c = ')' then
      if seen.isEmpty || seen.head? = some '-' then none else some (.flags mode, rest)
    else if seen.contains c || !"-imsUuRx".toList.contains c then none
    else takeFlags? (mode.set c !(seen.contains '-')) (c :: seen) rest

/-- What an opening bracket begins, given the text after it. -/
def takeOpening? (mode : Mode) (text : List Char) : Option (Opening × List Char) :=
  match mode.skip text with
  | '?' :: '=' :: _ | '?' :: '!' :: _ | '?' :: '<' :: '=' :: _ | '?' :: '<' :: '!' :: _ => none
  | '?' :: 'P' :: '<' :: text | '?' :: '<' :: text => takeGroupName? mode text
  | '?' :: text => takeFlags? mode [] text
  | text => some (.group mode none, text)

/-! ## Alternatives -/

/-- A part of an alternative. -/
structure Part where
  depth : Nat := 0
  /-- Whether it can be repeated; flags cannot. -/
  repeatable : Bool := true

/-- What has been read of a group, or of the pattern outside of all groups. -/
structure Reading where
  /-- The depths of the alternatives that are complete. -/
  alternatives : List Nat := []
  /-- The parts of the alternative that is being read, the last in front. -/
  parts : List Part := []

namespace Reading

/-- Another part. -/
def add (reading : Reading) (part : Part) : Reading :=
  { reading with parts := part :: reading.parts }

/-- The depth of the last alternative. -/
def lastDepth (reading : Reading) : Nat :=
  rowDepth (reading.parts.map Part.depth)

/-- A new alternative. -/
def next (reading : Reading) : Reading where
  alternatives := reading.lastDepth :: reading.alternatives

/-- The depth of what has been read. -/
def depth (reading : Reading) : Nat :=
  rowDepth (reading.lastDepth :: reading.alternatives)

/-- The reading with its last part repeated. -/
def repeatLast? (reading : Reading) : Option Reading :=
  match reading.parts with
  | [] => none
  | part :: parts =>
    if part.repeatable then some { reading with parts := { depth := 1 + part.depth } :: parts }
    else none

end Reading

/-- The names of groups with one more, which must be new. -/
def addName? (names : List (List Char)) : Option (List Char) → Option (List (List Char))
  | none => some names
  | some name => if names.contains name then none else some (name :: names)

/-- A group up to its closing bracket or to the end of the text: its depth, the names of all groups
so far, and the text from the bracket on. The number bounds the depth of the calls, of which each
takes at least one character. -/
def takeGroup? : Nat → Mode → List (List Char) → Reading → List Char →
    Option (Nat × List (List Char) × List Char)
  | 0, _, _, _, _ => none
  | fuel + 1, mode, names, reading, text =>
    match mode.skip text with
    | [] => some (reading.depth, names, [])
    | c :: rest =>
      match c with
      | ')' => some (reading.depth, names, c :: rest)
      | '|' => takeGroup? fuel mode names reading.next rest
      | '*' | '+' | '?' => do
        let reading ← reading.repeatLast?
        let rest := match rest with
          | '?' :: rest => rest
          | _ => rest
        takeGroup? fuel mode names reading rest
      | '(' => do
        let (opening, rest) ← takeOpening? mode rest
        match opening with
        | .flags mode => takeGroup? fuel mode names (reading.add { repeatable := false }) rest
        | .group inside name => do
          let names ← addName? names name
          let (depth, names, rest) ← takeGroup? fuel inside names {} rest
          match rest with
          | ')' :: rest => takeGroup? fuel mode names (reading.add { depth := 1 + depth }) rest
          | _ => none
      | '[' => do
        let (depth, rest) ← takeClass? mode rest
        takeGroup? fuel mode names (reading.add { depth }) rest
      | '\\' => do
        let (_, rest) ← takeEscape? mode rest
        takeGroup? fuel mode names (reading.add {}) rest
      | '.' => if mode.characters then takeGroup? fuel mode names (reading.add {}) rest else none
      | '{' => none
      | _ => takeGroup? fuel mode names (reading.add {}) rest

/-- Whether a text is a pattern. -/
def isPattern (text : List Char) : Bool :=
  match takeGroup? (text.length + 1) {} [] {} text with
  | some (depth, _, []) => depth ≤ deepest
  | _ => false

end DocumentQuery.Pattern
