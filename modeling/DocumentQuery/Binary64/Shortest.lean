import DocumentQuery.Binary64.Rounding

/-!
The shortest decimal that reads back as a given binary64 number.

`shortest?` looks at ever finer decimal grids, from the power of ten above the number down to
seventeen significant digits. On each grid the number lies between two neighbours; the first grid
with a neighbour that reads back wins, and of two neighbours that both do, the nearer one.
-/

namespace DocumentQuery.Binary64

/-! ## Shortest digits -/

/-- A positive decimal number: `coefficient * 10 ^ exponent`. -/
structure Decimal where
  coefficient : Nat
  exponent : Int
  deriving DecidableEq

/-- A positive finite number as an exact quotient of naturals. -/
def ratio (significand : Nat) (exponent : Int) : Nat × Nat :=
  (significand * 2 ^ exponent.toNat, 2 ^ (-exponent).toNat)

/-- The greatest power of ten that is not above a positive quotient, found from the number of
digits of its two parts. -/
def decimalExponent (numerator denominator : Nat) : Int :=
  let guess : Int := (Nat.toDigits 10 numerator).length - (Nat.toDigits 10 denominator).length
  if denominator * 10 ^ guess.toNat ≤ numerator * 10 ^ (-guess).toNat then guess else guess - 1

/-- The decimal on the grid `10 ^ exponent` that is nearest to the quotient among the two
neighbours that satisfy `accepts`; on a tie the even one. -/
def nearestOnGrid? (accepts : Decimal → Bool) (numerator denominator : Nat) (exponent : Int) :
    Option Decimal :=
  let n := numerator * 10 ^ (-exponent).toNat
  let d := denominator * 10 ^ exponent.toNat
  let below : Decimal := ⟨n / d, exponent⟩
  let above : Decimal := ⟨n / d + 1, exponent⟩
  if n % d = 0 then if accepts below then some below else none
  else
    let (first, second) := if roundDiv n d = n / d then (below, above) else (above, below)
    if accepts first then some first else if accepts second then some second else none

/-- The shortest decimal that reads back as the positive number with the given significand and
exponent. -/
def shortest? (significand : Nat) (exponent : Int) : Option Decimal :=
  let (n, d) := ratio significand exponent
  let top := decimalExponent n d
  let readsBack (decimal : Decimal) : Bool :=
    ofDecimal false decimal.coefficient decimal.exponent = pack false significand exponent
  (List.range 18).findSome? fun (count : Nat) => nearestOnGrid? readsBack n d (top + 1 - count)

end DocumentQuery.Binary64
