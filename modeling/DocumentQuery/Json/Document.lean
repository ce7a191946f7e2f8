import DocumentQuery.Binary64.Arithmetic
import DocumentQuery.Dict
import DocumentQuery.Json.Basic
import DocumentQuery.Text.Decimal

/-!
JSON documents as they are written, and what they mean.

A `Document` keeps what the text says: numerals by their digits, strings with their escapes, members
with their repetitions. Not every document has a value: a numeral may be beyond the largest binary64
number, an escape may be half of a pair, the nesting may be too deep. A reader that has no use for a
part of a document need not ask for its value.
-/

namespace DocumentQuery.Json

/-! ## What is written -/

/-- One character of a string: itself, or a code unit by its four hexadecimal digits. -/
inductive Glyph
  | plain (c : Char)
  | unit (code : Nat)

/-- A number by its digits. -/
structure Numeral where
  negative : Bool
  /-- The digits before the point. -/
  whole : List Char
  /-- The digits after the point, if there is one. -/
  fraction : Option (List Char)
  /-- The exponent of ten, if there is one. -/
  exponent : Option Int

/-- A JSON document. -/
inductive Document
  | null
  | bool (value : Bool)
  | number (numeral : Numeral)
  | string (glyphs : List Glyph)
  | array (items : List Document)
  | object (members : List (List Glyph × Document))

instance : Inhabited Document :=
  ⟨.null⟩

/-! ## Strings -/

/-- Whether a code unit is the first half of a pair. -/
def isLeading (code : Nat) : Bool :=
  0xd800 ≤ code && code < 0xdc00

/-- Whether a code unit is the second half of a pair. -/
def isTrailing (code : Nat) : Bool :=
  0xdc00 ≤ code && code < 0xe000

/-- The characters of a string, if every half of a pair stands beside its other half. -/
def characters? : List Glyph → Option (List Char)
  | [] => some []
  | .plain c :: glyphs => (characters? glyphs).map (c :: ·)
  | .unit code :: glyphs =>
    if isLeading code then
      match glyphs with
      | .unit next :: glyphs =>
        if isTrailing next then
          (characters? glyphs).map
            (Char.ofNat (0x10000 + (code - 0xd800) * 0x400 + (next - 0xdc00)) :: ·)
        else none
      | _ => none
    else if isTrailing code then none
    else (characters? glyphs).map (Char.ofNat code :: ·)

/-- The string that the glyphs spell. -/
def string? (glyphs : List Glyph) : Option String :=
  (characters? glyphs).map String.ofList

/-! ## Numbers -/

/-- Append digits to a number for as long as it stays below `2 ^ 64`: the number, and how many
digits are left over. -/
def absorb (number : Nat) : List Char → Nat × Nat
  | [] => (number, 0)
  | c :: digits =>
    let next := 10 * number + (c.toNat - '0'.toNat)
    if next < 2 ^ 64 then absorb next digits else (number, digits.length + 1)

/-- A number divided by a power of ten. Powers beyond `10 ^ 308` are divided off in two steps, and
beyond `10 ^ 616` nothing is left of a number below `2 ^ 64`. -/
def divPowerOfTen (x : Binary64) (power : Nat) : Binary64 :=
  let divide (x : Binary64) (power : Nat) := x.div (.ofNat (10 ^ power))
  if power ≤ 308 then divide x power
  else if power ≤ 616 then divide (divide x 308) (power - 308)
  else .zero false

/-- The magnitude of `significand * 10 ^ exponent`, rounded once for the significand and once for
the power of ten; nothing when it is beyond the largest finite number. -/
def scale? (significand : Nat) (exponent : Int) : Option Binary64 :=
  let x := Binary64.ofNat significand
  if exponent < 0 then some (divPowerOfTen x exponent.natAbs)
  else if significand = 0 then some x
  else if 308 < exponent then none
  else
    match x.mul (.ofNat (10 ^ exponent.toNat)) with
    | .infinite _ => none
    | product => some product

namespace Numeral

/-- The magnitude of a numeral as a binary64 number. The significand is the longest run of leading
digits that fits into 64 bits; whole digits beyond it count towards the exponent. -/
def magnitude? (numeral : Numeral) : Option Binary64 :=
  let (whole, dropped) := absorb 0 numeral.whole
  let fraction := numeral.fraction.getD []
  let (significand, unread) := absorb whole fraction
  let point : Int := dropped - (fraction.length - unread : Nat)
  scale? significand (point + numeral.exponent.getD 0)

/-- The number of a numeral without fraction and exponent that fits into 64 bits without sign. -/
def natural? (numeral : Numeral) : Option Nat :=
  match numeral.fraction, numeral.exponent with
  | none, none =>
    let value := Text.digitsValue numeral.whole
    if value < 2 ^ 64 then some value else none
  | _, _ => none

/-- The value of a numeral: a whole number when it is written as one and fits into 64 bits, with or
without sign, and otherwise a binary64 number. A zero with a minus sign is no whole number. -/
def value? (numeral : Numeral) : Option Json :=
  let float := numeral.magnitude?.map fun x => Json.float (if numeral.negative then x.neg else x)
  match numeral.natural? with
  | some n =>
    if !numeral.negative then some (.integer n)
    else if 0 < n ∧ n ≤ 2 ^ 63 then some (.integer (-n))
    else float
  | none => float

end Numeral

/-! ## Values -/

/-- Members with each name once: at its first place and with its last value. -/
def settle (members : List (String × Json)) : List (String × Json) :=
  (Dict.ofList members).entries

namespace Document

mutual

/-- The value of a document that is nested at most `depth` levels deep. -/
def value? (depth : Nat) : Document → Option Json
  | .null => some .null
  | .bool value => some (.bool value)
  | .number numeral => numeral.value?
  | .string glyphs => (string? glyphs).map .string
  | .array items =>
    match depth with
    | 0 => none
    | depth + 1 => (values? depth items).map .array
  | .object members =>
    match depth with
    | 0 => none
    | depth + 1 => (memberValues? depth members).map fun members => .object (settle members)

/-- The values of items. -/
def values? (depth : Nat) : List Document → Option (List Json)
  | [] => some []
  | item :: items => do
    let value ← value? depth item
    let values ← values? depth items
    some (value :: values)

/-- The names and values of members. -/
def memberValues? (depth : Nat) : List (List Glyph × Document) → Option (List (String × Json))
  | [] => some []
  | (name, member) :: members => do
    let name ← string? name
    let value ← value? depth member
    let values ← memberValues? depth members
    some ((name, value) :: values)

end

/-- The greatest depth of nesting of a document with a value. -/
def greatestDepth : Nat := 127

end Document

end DocumentQuery.Json
