import DocumentQuery.Binary64.Arithmetic
import DocumentQuery.Text.Blank
import DocumentQuery.Text.Decimal

/-!
Numerals in page and limit parameters.

A numeral is a decimal with an optional sign, point and exponent, or `Infinity` with an optional
sign, or a whole number with one of the signs `0x`, `0o` and `0b` of its radix in front. Every text
has a value; that of a text outside this grammar is `nan`.
-/

namespace DocumentQuery.Numeral

/-! ## Radix numerals -/

/-- The number that digits in a radix denote, rounded after each digit. -/
def radixValue (radix : Nat) (digits : List Nat) : Binary64 :=
  digits.foldl (fun value digit => (value.mul (.ofNat radix)).add (.ofNat digit)) (.zero false)

/-- The number of one or more digits in a radix. -/
def ofRadix (radix : Nat) (text : List Char) : Binary64 :=
  match text.mapM (Text.digitOfRadix? radix) with
  | some (first :: rest) => radixValue radix (first :: rest)
  | _ => .nan

/-- The radix that a text announces, and the digits after it. -/
def radix? : List Char → Option (Nat × List Char)
  | '0' :: c :: digits =>
    if c = 'x' ∨ c = 'X' then some (16, digits)
    else if c = 'o' ∨ c = 'O' then some (8, digits)
    else if c = 'b' ∨ c = 'B' then some (2, digits)
    else none
  | _ => none

/-! ## Decimal numerals -/

/-- A decimal numeral by its parts. -/
structure Decimal where
  negative : Bool
  /-- The digits before the point. -/
  whole : List Char
  /-- The digits after the point. -/
  fraction : List Char
  exponent : Int

/-- A sign, if there is one, and the text after it. -/
def takeSign : List Char → Bool × List Char
  | '-' :: text => (true, text)
  | '+' :: text => (false, text)
  | text => (false, text)

/-- The exponent in a text that is nothing else; no text is the exponent zero. -/
def exponent? : List Char → Option Int
  | [] => some 0
  | c :: text =>
    if c = 'e' ∨ c = 'E' then
      let (negative, digits) := takeSign text
      if Text.isDigits digits then
        some (if negative then -(Text.digitsValue digits : Int) else Text.digitsValue digits)
      else none
    else none

/-- The fraction with its point at the front of a text, and the text after it. -/
def takeFraction : List Char → List Char × List Char
  | '.' :: text => (text.takeWhile Char.isDigit, text.dropWhile Char.isDigit)
  | text => ([], text)

/-- The parts of a decimal numeral: at least one digit before or after the point. -/
def decimal? (text : List Char) : Option Decimal := do
  let (negative, text) := takeSign text
  let whole := text.takeWhile Char.isDigit
  let (fraction, text) := takeFraction (text.dropWhile Char.isDigit)
  let exponent ← exponent? text
  if whole.isEmpty && fraction.isEmpty then none
  else some { negative, whole, fraction, exponent }

/-- The number nearest to a decimal numeral. -/
def Decimal.value (decimal : Decimal) : Binary64 :=
  .ofDecimal decimal.negative (Text.digitsValue (decimal.whole ++ decimal.fraction))
    (decimal.exponent - decimal.fraction.length)

/-! ## All numerals -/

/-- The infinite numbers by name. -/
def infinity? (text : List Char) : Option Binary64 :=
  let (negative, name) := takeSign text
  if name = "Infinity".toList then some (.infinite negative) else none

/-- The value of a text without blanks at its ends. -/
def read (text : List Char) : Binary64 :=
  match infinity? text, radix? text with
  | some value, _ => value
  | none, some (radix, digits) => ofRadix radix digits
  | none, none =>
    match decimal? text with
    | some decimal => decimal.value
    | none => .nan

end DocumentQuery.Numeral
