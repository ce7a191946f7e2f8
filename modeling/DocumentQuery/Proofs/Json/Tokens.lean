import DocumentQuery.Json.Printer
import DocumentQuery.Json.Reader
import DocumentQuery.Proofs.Text.Decimal

/-!
Written strings and whole numbers, read back.

A string is written with escapes, and its glyphs spell it again. A whole number is read back when
what comes after it can come after a value, since no digit, point or exponent is among that.
-/

namespace DocumentQuery.Json

/-! ## Strings -/

/-- The glyph that a character is written as. -/
def glyph (c : Char) : Glyph :=
  match escape c with
  | '\\' :: 'u' :: _ => .unit c.toNat
  | _ => .plain c

/-- A character is written with a backslash and a letter, with four hexadecimal digits, or as it
is. -/
theorem escape_cases (c : Char) :
    (∃ letter, escape c = ['\\', letter] ∧ letter ≠ 'u' ∧ unescape? letter = some c ∧
        glyph c = .plain c) ∨
      (c.toNat < 0x20 ∧ glyph c = .unit c.toNat ∧
        escape c = ['\\', 'u', '0', '0', hexDigit (c.toNat / 16), hexDigit (c.toNat % 16)]) ∨
      (escape c = [c] ∧ c ≠ '"' ∧ c ≠ '\\' ∧ 0x20 ≤ c.toNat ∧ glyph c = .plain c) := by
  unfold glyph escape
  split
  · exact Or.inl ⟨'"', rfl, by decide, rfl, rfl⟩
  · exact Or.inl ⟨'\\', rfl, by decide, rfl, rfl⟩
  · exact Or.inl ⟨'b', rfl, by decide, rfl, rfl⟩
  · exact Or.inl ⟨'t', rfl, by decide, rfl, rfl⟩
  · exact Or.inl ⟨'n', rfl, by decide, rfl, rfl⟩
  · exact Or.inl ⟨'f', rfl, by decide, rfl, rfl⟩
  · exact Or.inl ⟨'r', rfl, by decide, rfl, rfl⟩
  · next quote backslash _ _ _ _ _ =>
    split
    · next control => exact Or.inr (Or.inl ⟨control, rfl, rfl⟩)
    · next visible =>
      refine Or.inr (Or.inr ⟨rfl, quote, backslash, Nat.not_lt.mp visible, ?_⟩)
      split
      · next same => cases same
      · rfl

theorem takeGlyphs?_letter {letter c : Char} (ne : letter ≠ 'u') (plain : unescape? letter = some c)
    (text : List Char) :
    takeGlyphs? ('\\' :: letter :: text) =
      (takeGlyphs? text).map fun taken => (.plain c :: taken.1, taken.2) := by
  rw [takeGlyphs?, plain]
  · cases takeGlyphs? text <;> rfl
  · intro _ _ _ _ _ same
    exact absurd same ne

theorem codeUnit?_control : ∀ code < 0x20,
    codeUnit? ['0', '0', hexDigit (code / 16), hexDigit (code % 16)] = some code := by
  decide

theorem takeGlyphs?_control {code : Nat} (control : code < 0x20) (text : List Char) :
    takeGlyphs? ('\\' :: 'u' :: '0' :: '0' :: hexDigit (code / 16) :: hexDigit (code % 16) :: text) =
      (takeGlyphs? text).map fun taken => (.unit code :: taken.1, taken.2) := by
  rw [takeGlyphs?, codeUnit?_control code control]
  cases takeGlyphs? text <;> rfl

theorem takeGlyphs?_visible {c : Char} (quote : c ≠ '"') (backslash : c ≠ '\\')
    (visible : 0x20 ≤ c.toNat) (text : List Char) :
    takeGlyphs? (c :: text) =
      (takeGlyphs? text).map fun taken => (.plain c :: taken.1, taken.2) := by
  have kept : ¬ (c = '\\' ∨ c.toNat < 0x20) := by
    rintro (same | control)
    · exact backslash same
    · omega
  rw [takeGlyphs?, if_neg kept]
  · cases takeGlyphs? text <;> rfl
  · exact quote
  · intro _ _ _ _ _ same
    exact absurd same backslash
  · intro _ _ same
    exact absurd same backslash

theorem takeGlyphs?_escape (c : Char) (text : List Char) :
    takeGlyphs? (escape c ++ text) =
      (takeGlyphs? text).map fun taken => (glyph c :: taken.1, taken.2) := by
  rcases escape_cases c with ⟨letter, written, ne, plain, read⟩ | ⟨control, read, written⟩ |
    ⟨written, quote, backslash, visible, read⟩
  · rw [written, read]
    exact takeGlyphs?_letter ne plain text
  · rw [written, read]
    exact takeGlyphs?_control control text
  · rw [written, read]
    exact takeGlyphs?_visible quote backslash visible text

theorem takeGlyphs?_quoted (text rest : List Char) :
    takeGlyphs? (text.flatMap escape ++ '"' :: rest) = some (text.map glyph, rest) := by
  induction text with
  | nil => rfl
  | cons c text ih =>
    rw [List.flatMap_cons, List.append_assoc, takeGlyphs?_escape, ih]
    rfl

theorem characters?_control {c : Char} (control : c.toNat < 0x20) (glyphs : List Glyph) :
    characters? (.unit c.toNat :: glyphs) = (characters? glyphs).map (c :: ·) := by
  have leading : isLeading c.toNat = false := by
    simp only [isLeading, Bool.and_eq_false_iff, decide_eq_false_iff_not]
    omega
  have trailing : isTrailing c.toNat = false := by
    simp only [isTrailing, Bool.and_eq_false_iff, decide_eq_false_iff_not]
    omega
  rw [characters?.eq_def]
  simp only [leading, trailing, Bool.false_eq_true, if_false, Char.ofNat_toNat]

theorem characters?_glyph (c : Char) (glyphs : List Glyph) :
    characters? (glyph c :: glyphs) = (characters? glyphs).map (c :: ·) := by
  rcases escape_cases c with ⟨_, _, _, _, read⟩ | ⟨control, read, _⟩ | ⟨_, _, _, _, read⟩
  · rw [read, characters?]
  · rw [read, characters?_control control]
  · rw [read, characters?]

theorem characters?_glyphs (text : List Char) : characters? (text.map glyph) = some text := by
  induction text with
  | nil => rfl
  | cons c text ih =>
    rw [List.map_cons, characters?_glyph, ih]
    rfl

/-- The glyphs of a written string spell the string. -/
theorem string?_glyphs (text : String) : string? (text.toList.map glyph) = some text := by
  unfold string?
  rw [characters?_glyphs, Option.map_some, String.ofList_toList]

/-! ## Whole numbers -/

/-- Whether a text can come after a value: it is empty or begins with a comma or a closing
bracket. -/
def Follows (rest : List Char) : Prop :=
  rest = [] ∨ ∃ c after, rest = c :: after ∧ (c = ',' ∨ c = ']' ∨ c = '}')

/-- The numeral that a whole number is written as. -/
def Numeral.ofInt (n : Int) : Numeral where
  negative := n < 0
  whole := Text.natural n.natAbs
  fraction := none
  exponent := none

section Follows

variable {rest : List Char} (follows : Follows rest)

include follows

theorem takeWhole?_natural (n : Nat) :
    takeWhole? (Text.natural n ++ rest) = some (Text.natural n, rest) := by
  have digits : ∀ c ∈ Text.natural n, c.isDigit = true := fun c => Text.isDigit_of_mem_natural
  have stops : rest.takeWhile Char.isDigit = [] ∧ rest.dropWhile Char.isDigit = rest := by
    rcases follows with rfl | ⟨c, after, rfl, rfl | rfl | rfl⟩ <;> exact ⟨rfl, rfl⟩
  obtain ⟨c, tail, written, _⟩ := Text.natural_eq_cons n
  have taken : takeDigits? (Text.natural n ++ rest) = some (Text.natural n, rest) := by
    unfold takeDigits?
    simp only [List.takeWhile_append_of_pos digits, List.dropWhile_append_of_pos digits, stops.1,
      stops.2, List.append_nil]
    rw [written]
    rfl
  unfold takeWhole?
  rw [taken]
  simp only [Option.bind_eq_bind, Option.bind_some]
  split
  · next zero => exact absurd zero (Text.natural_ne_zero_cons n _ _)
  · rfl

theorem takeNumeral?_integer (n : Int) :
    takeNumeral? (Text.integer n ++ rest) = some (.ofInt n, rest) := by
  have fraction : takeFraction? rest = some (none, rest) := by
    rcases follows with rfl | ⟨c, after, rfl, rfl | rfl | rfl⟩ <;> rfl
  have exponent : takeExponent? rest = some (none, rest) := by
    rcases follows with rfl | ⟨c, after, rfl, rfl | rfl | rfl⟩ <;> rfl
  have whole := takeWhole?_natural follows n.natAbs
  unfold takeNumeral? Text.integer
  by_cases negative : n < 0
  · rw [if_pos negative]
    simp only [List.cons_append, whole, fraction, exponent, Option.bind_eq_bind, Option.bind_some,
      Numeral.ofInt, negative, decide_true]
  · obtain ⟨c, tail, written, digit⟩ := Text.natural_eq_cons n.natAbs
    rw [if_neg negative]
    split
    next sign text signed =>
    have plain : (false, Text.natural n.natAbs ++ rest) = (sign, text) := by
      rw [← signed]
      split
      · next minus =>
        rw [written] at minus
        obtain ⟨rfl, _⟩ := List.cons.inj minus
        cases digit
      · rfl
    obtain ⟨rfl, rfl⟩ := Prod.mk.inj plain
    simp only [whole, fraction, exponent, Option.bind_eq_bind, Option.bind_some, Numeral.ofInt,
      negative, decide_false]

end Follows

/-- A whole number that fits into 64 bits, with or without a sign, is the value of its numeral. -/
theorem Numeral.value?_ofInt {n : Int} (lower : -2 ^ 63 ≤ n) (upper : n < 2 ^ 64) :
    (ofInt n).value? = some (.integer n) := by
  have natural : (ofInt n).natural? = some n.natAbs := by
    unfold natural? ofInt
    simp only [Text.digitsValue_natural]
    rw [if_pos (by omega)]
  unfold value?
  simp only [natural]
  by_cases negative : n < 0
  · have sign : (ofInt n).negative = true := decide_eq_true negative
    have fits : 0 < n.natAbs ∧ n.natAbs ≤ 2 ^ 63 := by omega
    have value : -(n.natAbs : Int) = n := by omega
    rw [sign, if_neg (by decide), if_pos fits, value]
  · have sign : (ofInt n).negative = false := decide_eq_false negative
    have value : (n.natAbs : Int) = n := by omega
    rw [sign, if_pos (by decide), value]

end DocumentQuery.Json
