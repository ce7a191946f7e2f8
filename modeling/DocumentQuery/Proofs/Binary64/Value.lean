import DocumentQuery.Binary64.Basic
import Mathlib.Data.Rat.Cast.Defs

/-!
The exact value of a binary64 number.

A finite number has a rational value, by which statements about numbers are made. Taking its whole
number is no matter of rounding: `toInt?` gives one exactly when it is the value
(`Binary64.toInt?_eq_some_iff`).
-/

namespace DocumentQuery.Binary64

/-- The exact value of a finite number. -/
def value? : Binary64 → Option ℚ
  | .finite negative significand exponent _ => some (signed negative significand * 2 ^ exponent)
  | _ => none

theorem signed_mul (negative : Bool) (m n : Nat) : signed negative (m * n) = signed negative m * n := by
  cases negative <;> simp [signed]

theorem natCast_dvd_signed {negative : Bool} {d m : Nat} :
    (d : Int) ∣ signed negative m ↔ d ∣ m := by
  cases negative <;> simp [signed, Int.natCast_dvd_natCast]

/-- A multiple of a power of two is whole. -/
theorem toInt?_natCast (negative : Bool) (significand exponent : Nat)
    (canonical : Canonical significand exponent) :
    (finite negative significand exponent canonical).toInt? =
      some (signed negative significand * (2 ^ exponent : Nat)) := by
  simp [toInt?, Nat.mod_one, signed_mul]

/-- A fraction of a power of two is whole when the power divides it. -/
theorem toInt?_neg_natCast (negative : Bool) (significand places : Nat)
    (canonical : Canonical significand (-places)) (n : Int) :
    (finite negative significand (-places) canonical).toInt? = some n ↔
      signed negative significand = n * (2 ^ places : Nat) := by
  have up : (-(-(places : Int))).toNat = places := by omega
  have down : (-(places : Int)).toNat = 0 := by omega
  have nonzero : ((2 ^ places : Nat) : Int) ≠ 0 :=
    Int.natCast_ne_zero.mpr (Nat.two_pow_pos places).ne'
  simp only [toInt?, up, down, Nat.pow_zero, Nat.mul_one]
  by_cases whole : significand % 2 ^ places = 0
  · have parts : signed negative significand =
        signed negative (significand / 2 ^ places) * (2 ^ places : Nat) := by
      rw [← signed_mul, Nat.div_mul_cancel (Nat.dvd_of_mod_eq_zero whole)]
    rw [if_pos whole, Option.some.injEq, parts, mul_left_inj' nonzero]
  · rw [if_neg whole]
    refine iff_of_false (by simp) fun multiple => whole ?_
    have divides : ((2 ^ places : Nat) : Int) ∣ signed negative significand :=
      ⟨n, by rw [multiple, Int.mul_comm]⟩
    exact Nat.mod_eq_zero_of_dvd (natCast_dvd_signed.mp divides)

/-- The whole number of a binary64 number is its value, and every whole value is found. -/
theorem toInt?_eq_some_iff {x : Binary64} {n : Int} : x.toInt? = some n ↔ x.value? = some (n : ℚ) := by
  cases x with
  | nan => simp [toInt?, value?]
  | infinite negative => simp [toInt?, value?]
  | finite negative significand exponent canonical =>
    obtain ⟨k, rfl | rfl⟩ := exponent.eq_nat_or_neg
    · rw [toInt?_natCast, value?, Option.some.injEq, Option.some.injEq, zpow_natCast]
      norm_cast
    · have nonzero : (2 : ℚ) ^ k ≠ 0 := pow_ne_zero k (by decide)
      rw [toInt?_neg_natCast, value?, Option.some.injEq, zpow_neg, zpow_natCast,
        ← div_eq_mul_inv, div_eq_iff nonzero]
      norm_cast

end DocumentQuery.Binary64
