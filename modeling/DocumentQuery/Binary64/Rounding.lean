import DocumentQuery.Binary64.Basic

/-!
Rounding an exact quotient of naturals to the nearest binary64 number, ties to even.

`ofRatio` is the only place where a number is rounded: whole numbers, decimal numerals and the
results of arithmetic all come to it as exact quotients. Beyond the largest finite number the
result is infinite.
-/

namespace DocumentQuery.Binary64

/-! ## Quotients -/

/-- The quotient rounded to the nearest whole number, a half to the even neighbour. -/
def roundDiv (numerator denominator : Nat) : Nat :=
  let quotient := numerator / denominator
  let twice := 2 * (numerator % denominator)
  if twice < denominator ∨ (twice = denominator ∧ quotient % 2 = 0) then quotient
  else quotient + 1

/-- The quotient `numerator / denominator` divided by `2 ^ exponent`, again as a quotient. -/
def scaled (numerator denominator : Nat) (exponent : Int) : Nat × Nat :=
  (numerator * 2 ^ (-exponent).toNat, denominator * 2 ^ exponent.toNat)

/-- The exponent of the unit in the last place for a positive quotient: with it the quotient has
53 bits before the point, or fewer at the least exponent. -/
def unitExponent (numerator denominator : Nat) : Int :=
  let exponent : Int := numerator.log2 - denominator.log2 - 53
  let (n, d) := scaled numerator denominator exponent
  max leastExponent (if n / d < 2 ^ 53 then exponent else exponent + 1)

/-- The number nearest to a quotient with a sign. -/
def ofRatio (negative : Bool) (numerator denominator : Nat) : Binary64 :=
  if numerator = 0 then zero negative
  else
    let exponent := unitExponent numerator denominator
    let (n, d) := scaled numerator denominator exponent
    let significand := roundDiv n d
    if significand = 2 ^ 53 then pack negative (2 ^ 52) (exponent + 1)
    else pack negative significand exponent

@[simp] theorem ofRatio_zero (negative : Bool) (denominator : Nat) :
    ofRatio negative 0 denominator = zero negative := by
  simp [ofRatio]

/-! ## Exact sources -/

/-- The number nearest to a natural number. -/
def ofNat (n : Nat) : Binary64 :=
  ofRatio false n 1

/-- The number nearest to `magnitude * 2 ^ exponent` with a sign. -/
def ofDyadic (negative : Bool) (magnitude : Nat) (exponent : Int) : Binary64 :=
  ofRatio negative (magnitude * 2 ^ exponent.toNat) (2 ^ (-exponent).toNat)

/-- The number nearest to `coefficient * 10 ^ exponent` with a sign. The first two cases keep the
powers of ten small: a number of more than 310 places before the point is beyond the largest
finite number, and one that starts more than 330 places behind it is nearest to zero. -/
def ofDecimal (negative : Bool) (coefficient : Nat) (exponent : Int) : Binary64 :=
  let places : Int := (Nat.toDigits 10 coefficient).length + exponent
  if coefficient = 0 ∨ places < -330 then zero negative
  else if 310 < places then .infinite negative
  else ofRatio negative (coefficient * 10 ^ exponent.toNat) (10 ^ (-exponent).toNat)

end DocumentQuery.Binary64
