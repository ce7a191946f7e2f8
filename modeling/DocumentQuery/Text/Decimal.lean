import DocumentQuery.Power

/-!
Whole numbers in decimal digits, written and read, and the digits of other radices.

Only the ten ASCII digits count as decimal digits. A written number has no leading zeros and no plus
sign; a read number may have both.
-/

namespace DocumentQuery.Text

/-! ## Writing -/

/-- The decimal digits of `n`, without leading zeros. -/
def natural (n : Nat) : List Char :=
  Nat.toDigits 10 n

/-- The decimal digits of `n`, with a minus sign in front when `n` is negative. -/
def integer (n : Int) : List Char :=
  if n < 0 then '-' :: natural n.natAbs else natural n.natAbs

/-- The decimal digits of `n`, filled up with leading zeros to `width` digits. -/
def padded (width n : Nat) : List Char :=
  List.replicate (width - (natural n).length) '0' ++ natural n

/-! ## Reading -/

/-- The number that a list of decimal digits denotes. -/
def digitsValue (digits : List Char) : Nat :=
  Nat.ofDigitChars 10 digits 0

/-- One or more digits and nothing else. -/
def isDigits (text : List Char) : Bool :=
  !text.isEmpty && text.all Char.isDigit

/-- A number of one or more digits, with a plus sign allowed in front. -/
def readNatural? (text : List Char) : Option Nat :=
  let digits := match text with
    | '+' :: rest => rest
    | _ => text
  if isDigits digits then some (digitsValue digits) else none

/-- A number of one or more digits, with a plus or a minus sign allowed in front. -/
def readInteger? : List Char → Option Int
  | '-' :: digits => if isDigits digits then some (-(digitsValue digits : Int)) else none
  | text => (readNatural? text).map Int.ofNat

/-- The number in the first `width` characters, all of them digits, and the text after them. -/
def takeNumber? (width : Nat) (text : List Char) : Option (Nat × List Char) :=
  let digits := text.take width
  if digits.length = width && digits.all Char.isDigit then
    some (digitsValue digits, text.drop width)
  else none

/-- The value of a digit in a radix of at most 16; small and capital letters are the same. -/
def digitOfRadix? (radix : Nat) (c : Char) : Option Nat :=
  let value : Option Nat :=
    if c.isDigit then some (c.toNat - '0'.toNat)
    else if 'a' ≤ c ∧ c ≤ 'f' then some (c.toNat - 'a'.toNat + 10)
    else if 'A' ≤ c ∧ c ≤ 'F' then some (c.toNat - 'A'.toNat + 10)
    else none
  value.filter (· < radix)

theorem digitsValue_natural (n : Nat) : digitsValue (natural n) = n :=
  Nat.ofDigitChars_toDigits (by decide) (by decide)

theorem isDigit_of_mem_natural {n : Nat} {c : Char} (h : c ∈ natural n) : c.isDigit = true :=
  Nat.isDigit_of_mem_toDigits (by decide) (by decide) h

theorem isDigits_natural (n : Nat) : isDigits (natural n) = true := by
  have nonempty : natural n ≠ [] := by
    intro h
    by_cases small : n < 10
    · rw [natural, Nat.toDigits_of_lt_base small] at h
      cases h
    · rw [natural, Nat.toDigits_of_base_le (by decide) (by omega)] at h
      simp at h
  simp only [isDigits, Bool.and_eq_true, List.all_eq_true]
  exact ⟨by simpa using nonempty, fun c => isDigit_of_mem_natural⟩

end DocumentQuery.Text
