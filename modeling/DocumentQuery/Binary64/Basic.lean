import DocumentQuery.Power

/-!
Binary floating-point numbers of 64 bits.

A finite number is a sign, a significand below `2 ^ 53` and an exponent, and stands for
`significand * 2 ^ exponent`. `Canonical` leaves one such pair for each number: a significand with
fewer than 53 bits comes only with the least exponent. There is one value that is not a number.
`ofBits` and `toBits` are the interchange format: a sign bit, eleven exponent bits and 52 bits of
the significand.
-/

namespace DocumentQuery

/-! ## The numbers -/

namespace Binary64

/-- The exponent of the smallest positive number. -/
def leastExponent : Int := -1074

/-- The exponent of the largest finite number. -/
def greatestExponent : Int := 971

/-- Whether a significand and an exponent are the chosen pair for the number they stand for. -/
def Canonical (significand : Nat) (exponent : Int) : Prop :=
  significand < 2 ^ 53 ∧ leastExponent ≤ exponent ∧ exponent ≤ greatestExponent ∧
    (2 ^ 52 ≤ significand ∨ exponent = leastExponent)

instance (significand : Nat) (exponent : Int) : Decidable (Canonical significand exponent) :=
  inferInstanceAs (Decidable (_ ∧ _ ∧ _ ∧ _))

end Binary64

/-- A binary floating-point number of 64 bits. -/
inductive Binary64
  | nan
  | infinite (negative : Bool)
  | finite (negative : Bool) (significand : Nat) (exponent : Int)
      (canonical : Binary64.Canonical significand exponent)
  deriving DecidableEq

namespace Binary64

/-- The zero of either sign. -/
def zero (negative : Bool) : Binary64 :=
  .finite negative 0 leastExponent (by decide)

instance : Inhabited Binary64 :=
  ⟨zero false⟩

/-- The finite number of a canonical pair, and otherwise the infinite one of that sign. Rounding
calls it with pairs that fail only by too great an exponent. -/
def pack (negative : Bool) (significand : Nat) (exponent : Int) : Binary64 :=
  if canonical : Canonical significand exponent then
    .finite negative significand exponent canonical
  else .infinite negative

theorem pack_of_canonical {significand : Nat} {exponent : Int} (negative : Bool)
    (h : Canonical significand exponent) :
    pack negative significand exponent = .finite negative significand exponent h := by
  rw [pack, dif_pos h]

/-! ## Views -/

/-- Whether the sign is minus; a value that is not a number has none. -/
def isNegative : Binary64 → Bool
  | .nan => false
  | .infinite negative => negative
  | .finite negative _ _ _ => negative

/-- The number with the opposite sign. -/
def neg : Binary64 → Binary64
  | .nan => .nan
  | .infinite negative => .infinite !negative
  | .finite negative significand exponent canonical =>
    .finite (!negative) significand exponent canonical

/-- `magnitude` with a sign. -/
def signed (negative : Bool) (magnitude : Nat) : Int :=
  if negative then -magnitude else magnitude

/-- The whole number that a finite number stands for, if it stands for one. Both zeros are zero. -/
def toInt? : Binary64 → Option Int
  | .finite negative significand exponent _ =>
    let unit := 2 ^ (-exponent).toNat
    if significand % unit = 0 then
      some (signed negative (significand / unit * 2 ^ exponent.toNat))
    else none
  | _ => none

/-- Whether two numbers are equal as numbers: zeros of either sign are, and a value that is not a
number is not even equal to itself. -/
def equals : Binary64 → Binary64 → Bool
  | .nan, _ => false
  | _, .nan => false
  | .infinite s, .infinite t => s = t
  | .finite s m e _, .finite t n f _ => m = n && e = f && (s = t || m = 0)
  | _, _ => false

/-! ## Interchange format -/

/-- The number with the given 64 bits. -/
def ofBits (bits : UInt64) : Binary64 :=
  let negative := decide (2 ^ 63 ≤ bits.toNat)
  let field : Nat := bits.toNat / 2 ^ 52 % 2 ^ 11
  let fraction : Nat := bits.toNat % 2 ^ 52
  if field = 2 ^ 11 - 1 then
    if fraction = 0 then .infinite negative else .nan
  else if field = 0 then pack negative fraction leastExponent
  else pack negative (2 ^ 52 + fraction) ((field : Int) + leastExponent - 1)

/-- The 64 bits of a number. -/
def toBits (x : Binary64) : UInt64 :=
  let magnitude := match x with
    | .nan => 2047 * 2 ^ 52 + 2 ^ 51
    | .infinite _ => 2047 * 2 ^ 52
    | .finite _ significand exponent _ =>
      if significand < 2 ^ 52 then significand
      else (exponent - leastExponent + 1).toNat * 2 ^ 52 + (significand - 2 ^ 52)
  UInt64.ofNat (magnitude + if x.isNegative then 2 ^ 63 else 0)

end Binary64

end DocumentQuery
