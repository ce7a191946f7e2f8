/-!
Parts of a text by their places in bytes.

A text is counted in the bytes of its UTF-8 form. Cutting at a byte that does not begin a character
fails.
-/

namespace DocumentQuery.Text

/-- The number of bytes of a text. -/
def byteLength : List Char → Nat
  | [] => 0
  | c :: text => c.utf8Size + byteLength text

/-- The text after its first bytes. -/
def dropBytes? : Nat → List Char → Option (List Char)
  | 0, text => some text
  | _ + 1, [] => none
  | count + 1, c :: text =>
    if c.utf8Size ≤ count + 1 then dropBytes? (count + 1 - c.utf8Size) text else none

/-- The first bytes of a text. -/
def takeBytes? : Nat → List Char → Option (List Char)
  | 0, _ => some []
  | _ + 1, [] => none
  | count + 1, c :: text =>
    if c.utf8Size ≤ count + 1 then (takeBytes? (count + 1 - c.utf8Size) text).map (c :: ·) else none

/-- The part of a text from the byte `first` up to the byte `last`. -/
def cut? (first last : Nat) (text : List Char) : Option (List Char) := do
  let rest ← dropBytes? first text
  takeBytes? (last - first) rest

end DocumentQuery.Text
