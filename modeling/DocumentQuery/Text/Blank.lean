/-!
Blank characters, and text without the blanks at its two ends.

A character is blank when Unicode gives it the property White_Space. Text is a list of characters
here and in the modules that read it; `Text.trimmed` is the same operation on strings.
-/

namespace DocumentQuery.Text

/-! ## The blank characters -/

/-- The code points with the property White_Space, as ranges with both ends included. -/
def blankRanges : List (Nat × Nat) :=
  [(0x09, 0x0d), (0x20, 0x20), (0x85, 0x85), (0xa0, 0xa0), (0x1680, 0x1680), (0x2000, 0x200a),
    (0x2028, 0x2029), (0x202f, 0x202f), (0x205f, 0x205f), (0x3000, 0x3000)]

/-- Whether `c` is blank. -/
def isBlank (c : Char) : Bool :=
  blankRanges.any fun range => range.1 ≤ c.toNat && c.toNat ≤ range.2

/-- No ASCII letter or digit is blank. -/
theorem isBlank_of_isAlphanum {c : Char} (h : c.isAlphanum = true) : isBlank c = false := by
  have bound : 48 ≤ c.toNat ∧ c.toNat ≤ 122 := by
    delta Char.isAlphanum Char.isAlpha Char.isUpper Char.isLower Char.isDigit at h
    simp only [Bool.or_eq_true, Bool.and_eq_true, decide_eq_true_eq, ge_iff_le,
      UInt32.le_iff_toNat_le] at h
    have upper : 'A'.val.toNat = 65 ∧ 'Z'.val.toNat = 90 := by decide
    have lower : 'a'.val.toNat = 97 ∧ 'z'.val.toNat = 122 := by decide
    have digit : '0'.val.toNat = 48 ∧ '9'.val.toNat = 57 := by decide
    have value : c.toNat = c.val.toNat := rfl
    omega
  simp only [isBlank, blankRanges, List.any_cons, List.any_nil, Bool.or_eq_false_iff,
    Bool.and_eq_false_iff, decide_eq_false_iff_not, and_true]
  omega

/-! ## Trimming -/

/-- The text without its leading blanks. -/
def trimStart (text : List Char) : List Char :=
  text.dropWhile isBlank

/-- The text without its trailing blanks. -/
def trimEnd (text : List Char) : List Char :=
  (text.reverse.dropWhile isBlank).reverse

/-- The text without the blanks at either end. -/
def trim (text : List Char) : List Char :=
  trimEnd (trimStart text)

/-- `trim` on strings. -/
def trimmed (text : String) : String :=
  String.ofList (trim text.toList)

@[simp] theorem toList_trimmed (text : String) : (trimmed text).toList = trim text.toList := by
  simp [trimmed]

theorem trimStart_cons_of_blank {c : Char} (text : List Char) (h : isBlank c = true) :
    trimStart (c :: text) = trimStart text := by
  simp [trimStart, h]

theorem trimStart_cons_of_not_blank {c : Char} (text : List Char) (h : isBlank c = false) :
    trimStart (c :: text) = c :: text := by
  simp [trimStart, h]

theorem trimEnd_append_of_not_blank {c : Char} (text : List Char) (h : isBlank c = false) :
    trimEnd (text ++ [c]) = text ++ [c] := by
  simp [trimEnd, h]

end DocumentQuery.Text
