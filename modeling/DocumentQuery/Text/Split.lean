import DocumentQuery.Text.Blank

/-!
Text in pieces: cut at every separator, put together again, and cut at the last separator only.

Cutting keeps empty pieces and the blanks inside them, so a text with `n` separators has exactly
`n + 1` pieces and `join` gives the text back.
-/

namespace DocumentQuery.Text

/-! ## Cutting at every separator -/

/-- The pieces of a text between its separators, in order. -/
def split (separator : Char) : List Char → List (List Char)
  | [] => [[]]
  | c :: text =>
    if c = separator then [] :: split separator text
    else
      match split separator text with
      | [] => [[c]]
      | piece :: pieces => (c :: piece) :: pieces

/-- The pieces in order with one separator between neighbours. -/
def join (separator : Char) : List (List Char) → List Char
  | [] => []
  | [piece] => piece
  | piece :: next :: pieces => piece ++ separator :: join separator (next :: pieces)

theorem split_ne_nil (separator : Char) (text : List Char) : split separator text ≠ [] := by
  cases text with
  | nil => simp [split]
  | cons c text =>
    rw [split]
    split
    · simp
    · split <;> simp

@[simp] theorem split_nil (separator : Char) : split separator [] = [[]] := rfl

theorem split_separator (separator : Char) (text : List Char) :
    split separator (separator :: text) = [] :: split separator text := by
  simp [split]

theorem split_cons_of_ne {separator c : Char} {text piece : List Char} {pieces : List (List Char)}
    (h : c ≠ separator) (tail : split separator text = piece :: pieces) :
    split separator (c :: text) = (c :: piece) :: pieces := by
  simp [split, h, tail]

theorem join_cons (separator : Char) (piece : List Char) {pieces : List (List Char)}
    (h : pieces ≠ []) :
    join separator (piece :: pieces) = piece ++ separator :: join separator pieces := by
  cases pieces with
  | nil => exact absurd rfl h
  | cons next pieces => rfl

/-- Joining undoes cutting. -/
theorem join_split (separator : Char) (text : List Char) :
    join separator (split separator text) = text := by
  induction text with
  | nil => rfl
  | cons c text ih =>
    by_cases h : c = separator
    · subst h
      rw [split_separator, join_cons _ _ (split_ne_nil _ _), ih, List.nil_append]
    · cases tail : split separator text with
      | nil => exact absurd tail (split_ne_nil _ _)
      | cons piece pieces =>
        rw [split_cons_of_ne h tail]
        rw [tail] at ih
        cases pieces with
        | nil => simpa [join] using ih
        | cons next pieces => simpa [join] using ih

theorem split_of_not_mem {separator : Char} {text : List Char} (h : separator ∉ text) :
    split separator text = [text] := by
  induction text with
  | nil => rfl
  | cons c text ih =>
    rw [List.mem_cons, not_or] at h
    rw [split_cons_of_ne (Ne.symm h.1) (ih h.2)]

theorem split_append {separator : Char} {piece : List Char} (text : List Char)
    (h : separator ∉ piece) :
    split separator (piece ++ separator :: text) = piece :: split separator text := by
  induction piece with
  | nil => exact split_separator separator text
  | cons c piece ih =>
    rw [List.mem_cons, not_or] at h
    rw [List.cons_append, split_cons_of_ne (Ne.symm h.1) (ih h.2)]

/-- Cutting undoes joining when there is a piece and no piece has a separator in it. -/
theorem split_join {separator : Char} {pieces : List (List Char)} (nonempty : pieces ≠ [])
    (h : ∀ piece ∈ pieces, separator ∉ piece) : split separator (join separator pieces) = pieces := by
  induction pieces with
  | nil => exact absurd rfl nonempty
  | cons piece pieces ih =>
    cases pieces with
    | nil => exact split_of_not_mem (h piece (by simp))
    | cons next pieces =>
      rw [join, split_append _ (h piece (by simp)),
        ih (by simp) fun other mem => h other (List.mem_cons_of_mem _ mem)]

/-! ## Strings -/

/-- `split` on strings. -/
def pieces (separator : Char) (text : String) : List String :=
  (split separator text.toList).map String.ofList

/-- `join` on strings. -/
def joined (separator : Char) (pieces : List String) : String :=
  String.ofList (join separator (pieces.map String.toList))

/-- The pieces of a string, each without the blanks at its ends. -/
def trimmedPieces (separator : Char) (text : String) : List String :=
  (pieces separator text).map trimmed

theorem pieces_ne_nil (separator : Char) (text : String) : pieces separator text ≠ [] := by
  simp [pieces, split_ne_nil]

theorem joined_pieces (separator : Char) (text : String) :
    joined separator (pieces separator text) = text := by
  have same : String.toList ∘ String.ofList = id := by
    funext piece
    simp
  simp [joined, pieces, same, join_split]

/-! ## Cutting at the last separator -/

/-- The text before and after its last separator, or nothing when there is no separator. -/
def splitLast? (separator : Char) : List Char → Option (List Char × List Char)
  | [] => none
  | c :: text =>
    match splitLast? separator text with
    | some (front, last) => some (c :: front, last)
    | none => if c = separator then some ([], text) else none

theorem splitLast?_eq_none {separator : Char} {text : List Char} (h : separator ∉ text) :
    splitLast? separator text = none := by
  induction text with
  | nil => rfl
  | cons c text ih =>
    rw [List.mem_cons, not_or] at h
    simp [splitLast?, ih h.2, Ne.symm h.1]

theorem splitLast?_append {separator : Char} (front : List Char) {last : List Char}
    (h : separator ∉ last) :
    splitLast? separator (front ++ separator :: last) = some (front, last) := by
  induction front with
  | nil => simp [splitLast?, splitLast?_eq_none h]
  | cons c front ih => simp [splitLast?, ih]

end DocumentQuery.Text
