import DocumentQuery.Binary64.Rounding
import DocumentQuery.Proofs.Binary64.Value
import Mathlib.Algebra.Order.Field.Power
import Mathlib.Tactic.FieldSimp
import Mathlib.Tactic.Linarith
import Mathlib.Tactic.Positivity
import Mathlib.Tactic.Ring

/-!
Rounding to binary64 numbers.

A positive quotient has a unit in its last place (`IsUnitExponent`), and the whole number of units
nearest to it is the significand that it is rounded to (`ofRatio_eq_carry`). So rounding depends on
the value of a quotient and not on its terms, and `ofRat` says it of rational numbers. The result is
nearest to the rational number among all binary64 numbers, ties going to even significands
(`isNearest_ofRat`), and a number that is represented is not changed (`value?_ofRat`).
-/

namespace DocumentQuery.Binary64

/-! ## Nearest whole numbers -/

/-- Whether a whole number is nearest to a rational number; of two that are equally near it is the
even one. -/
def NearestWhole (m : Nat) (q : ℚ) : Prop :=
  |q - m| < 1 / 2 ∨ |q - m| = 1 / 2 ∧ m % 2 = 0

theorem nearestWhole_natCast (m : Nat) : NearestWhole m m := by
  left
  rw [sub_self, abs_zero]
  exact one_half_pos

theorem nearestWhole_roundDiv (n : Nat) {d : Nat} (positive : 0 < d) :
    NearestWhole (roundDiv n d) (n / d) := by
  have pos : (0 : ℚ) < d := Nat.cast_pos.mpr positive
  have remainder := Nat.mod_lt n positive
  have parts : (n : ℚ) / d - (n / d : Nat) = (n % d : Nat) / d := by
    have whole : (n : ℚ) = d * (n / d : Nat) + (n % d : Nat) := by
      exact_mod_cast (Nat.div_add_mod n d).symm
    field_simp
    linarith
  have below : ∀ r : Nat, |(r : ℚ) / d| = r / d := fun r => abs_of_nonneg (by positivity)
  unfold roundDiv NearestWhole
  simp only
  split
  · next down =>
    rw [parts, below, div_lt_div_iff₀ pos two_pos, div_eq_div_iff pos.ne' two_ne_zero]
    norm_cast
    omega
  · next up =>
    have above : |(n : ℚ) / d - (n / d + 1 : Nat)| = (d - n % d : Nat) / d := by
      rw [Nat.cast_add_one, ← sub_sub, parts, Nat.cast_sub remainder.le, ← abs_neg, neg_sub, abs_of_nonneg]
      · field_simp
      · have : ((n % d : Nat) : ℚ) ≤ d := by exact_mod_cast remainder.le
        rw [sub_nonneg, div_le_one pos]
        exact this
    rw [above, div_lt_div_iff₀ pos two_pos, div_eq_div_iff pos.ne' two_ne_zero]
    norm_cast
    omega

namespace NearestWhole

variable {m n : Nat} {q : ℚ}

/-- No whole number is nearer. -/
theorem le_abs_sub (nearest : NearestWhole m q) (other : Int) :
    |q - m| ≤ |q - other| ∧ (|q - m| = |q - other| → other = m ∨ m % 2 = 0) := by
  by_cases same : other = m
  · subst same
    simp
  have apart : (1 : ℚ) ≤ |(m : ℚ) - other| := by
    have whole : (1 : Int) ≤ |(m : Int) - other| := Int.one_le_abs (by omega)
    exact_mod_cast whole
  have triangle : |(m : ℚ) - other| ≤ |q - m| + |q - other| := by
    rw [abs_sub_comm q m]
    exact abs_sub_le _ _ _
  rcases nearest with near | ⟨half, even⟩
  · refine ⟨by linarith, fun equal => ?_⟩
    linarith
  · exact ⟨by linarith, fun _ => Or.inr even⟩

theorem bounds (nearest : NearestWhole m q) : (m : ℚ) ≤ q + 1 / 2 ∧ q ≤ m + 1 / 2 := by
  have near : |q - m| ≤ 1 / 2 := by
    rcases nearest with near | ⟨half, _⟩
    · exact near.le
    · exact half.le
  rw [abs_le] at near
  constructor <;> linarith

theorem unique (left : NearestWhole m q) (right : NearestWhole n q) : m = n := by
  have bounds := left.bounds
  have bounds' := right.bounds
  have close : (m : Int) ≤ n + 1 ∧ (n : Int) ≤ m + 1 := by
    constructor
    · have : (m : ℚ) ≤ n + 1 := by linarith
      exact_mod_cast this
    · have : (n : ℚ) ≤ m + 1 := by linarith
      exact_mod_cast this
  by_contra different
  obtain ⟨le, even⟩ := left.le_abs_sub n
  obtain ⟨le', even'⟩ := right.le_abs_sub m
  have equal : |q - m| = |q - n| := le_antisymm (by exact_mod_cast le) (by exact_mod_cast le')
  have := even (by exact_mod_cast equal)
  have := even' (by exact_mod_cast equal.symm)
  omega

theorem le_natCast (nearest : NearestWhole m q) {k : Nat} (le : q ≤ k) : m ≤ k := by
  have bounds := nearest.bounds
  have : (m : ℚ) < k + 1 := by linarith
  exact Nat.lt_succ_iff.mp (by exact_mod_cast this)

theorem natCast_le (nearest : NearestWhole m q) {k : Nat} (le : k ≤ q) : k ≤ m := by
  have bounds := nearest.bounds
  have : (k : ℚ) < m + 1 := by linarith
  exact Nat.lt_succ_iff.mp (by exact_mod_cast this)

end NearestWhole

/-! ## Units in the last place -/

/-- Whether `exponent` belongs to the unit in the last place for a positive rational number: the
number has 53 bits before the point in this unit, or fewer at the least exponent. -/
structure IsUnitExponent (exponent : Int) (q : ℚ) : Prop where
  least : leastExponent ≤ exponent
  below : q < 2 ^ (exponent + 53)
  above : exponent = leastExponent ∨ 2 ^ (exponent + 52) ≤ q

theorem IsUnitExponent.unique {e f : Int} {q : ℚ} (left : IsUnitExponent e q)
    (right : IsUnitExponent f q) : e = f := by
  have order : ∀ {e f : Int}, IsUnitExponent e q → IsUnitExponent f q → e ≤ f := by
    intro e f left right
    rcases left.above with least | above
    · rw [least]
      exact right.least
    · have powers : (2 : ℚ) ^ (e + 52) < 2 ^ (f + 53) := above.trans_lt right.below
      have := (zpow_lt_zpow_iff_right₀ one_lt_two).mp powers
      omega
  exact le_antisymm (order left right) (order right left)

theorem cast_scaled (n d : Nat) (exponent : Int) :
    ((scaled n d exponent).1 : ℚ) / (scaled n d exponent).2 = n / d / 2 ^ exponent := by
  obtain ⟨k, rfl | rfl⟩ := exponent.eq_nat_or_neg
  · simp [scaled, div_div]
  · simp [scaled, div_eq_mul_inv, mul_assoc, mul_comm, mul_left_comm]

theorem scaled_pos (n : Nat) {d : Nat} (positive : 0 < d) (exponent : Int) :
    0 < (scaled n d exponent).2 :=
  Nat.mul_pos positive (Nat.two_pow_pos _)

theorem two_pow_log2_le {n : Nat} (positive : 0 < n) : (2 : ℚ) ^ (n.log2 : Int) ≤ n := by
  rw [zpow_natCast]
  exact_mod_cast Nat.log2_self_le positive.ne'

theorem lt_two_pow_log2 (n : Nat) : (n : ℚ) < 2 ^ (n.log2 + 1 : Int) := by
  rw [← Nat.cast_add_one, zpow_natCast]
  exact_mod_cast Nat.lt_log2_self

theorem scaled_div_lt_iff (n : Nat) {d : Nat} (positive : 0 < d) (exponent : Int) :
    (scaled n d exponent).1 / (scaled n d exponent).2 < 2 ^ 53 ↔
      (n : ℚ) / d < 2 ^ (exponent + 53) := by
  have pos := scaled_pos n positive exponent
  have posq : (0 : ℚ) < (scaled n d exponent).2 := Nat.cast_pos.mpr pos
  rw [Nat.div_lt_iff_lt_mul pos, zpow_add₀ two_ne_zero, ← div_lt_iff₀' (by positivity),
    ← cast_scaled, div_lt_iff₀ posq]
  norm_cast

theorem isUnitExponent_unitExponent {n d : Nat} (posn : 0 < n) (posd : 0 < d) :
    IsUnitExponent (unitExponent n d) (n / d) := by
  have pos : (0 : ℚ) < d := Nat.cast_pos.mpr posd
  -- The quotient lies within a factor of two of the quotient of the leading bits.
  have low : (2 : ℚ) ^ (n.log2 - d.log2 - 53 + 52 : Int) ≤ n / d := by
    rw [le_div_iff₀ pos]
    calc (2 : ℚ) ^ (n.log2 - d.log2 - 53 + 52 : Int) * d
        ≤ 2 ^ (n.log2 - d.log2 - 53 + 52 : Int) * 2 ^ (d.log2 + 1 : Int) :=
          mul_le_mul_of_nonneg_left (lt_two_pow_log2 d).le (by positivity)
      _ = 2 ^ (n.log2 : Int) := by
          rw [← zpow_add₀ two_ne_zero]
          congr 1
          omega
      _ ≤ n := two_pow_log2_le posn
  have high : (n : ℚ) / d < 2 ^ (n.log2 - d.log2 - 53 + 54 : Int) := by
    rw [div_lt_iff₀ pos]
    calc (n : ℚ) < 2 ^ (n.log2 + 1 : Int) := lt_two_pow_log2 n
      _ = 2 ^ (n.log2 - d.log2 - 53 + 54 : Int) * 2 ^ (d.log2 : Int) := by
          rw [← zpow_add₀ two_ne_zero]
          congr 1
          omega
      _ ≤ 2 ^ (n.log2 - d.log2 - 53 + 54 : Int) * d :=
          mul_le_mul_of_nonneg_left (two_pow_log2_le posd) (by positivity)
  have grow : ∀ {e f : Int}, e ≤ f → (2 : ℚ) ^ e ≤ 2 ^ f := fun le =>
    zpow_le_zpow_right₀ one_le_two le
  unfold unitExponent
  simp only [scaled_div_lt_iff n posd]
  generalize (n.log2 - d.log2 - 53 : Int) = e at low high
  split
  · next within =>
    refine ⟨le_max_left _ _, within.trans_le (grow (by omega)), ?_⟩
    rcases le_total e leastExponent with small | large
    · exact Or.inl (max_eq_left small)
    · rw [max_eq_right large]
      exact Or.inr low
  · next beyond =>
    refine ⟨le_max_left _ _, high.trans_le (grow (by omega)), ?_⟩
    rcases le_total (e + 1) leastExponent with small | large
    · exact Or.inl (max_eq_left small)
    · rw [max_eq_right large]
      refine Or.inr ((grow ?_).trans (not_lt.mp beyond))
      omega

/-! ## Rounding -/

/-- The number with a significand of at most 53 bits, or of `2 ^ 53`, which needs one bit more and is
carried into the exponent. -/
def carry (negative : Bool) (significand : Nat) (exponent : Int) : Binary64 :=
  if significand = 2 ^ 53 then pack negative (2 ^ 52) (exponent + 1)
  else pack negative significand exponent

/-- Rounding a positive quotient: the whole number nearest to it in the unit of its last place is the
significand. -/
theorem ofRatio_eq_carry {n d m : Nat} {exponent : Int} (negative : Bool) (posn : 0 < n) (posd : 0 < d)
    (unit : IsUnitExponent exponent (n / d)) (nearest : NearestWhole m (n / d / 2 ^ exponent)) :
    ofRatio negative n d = carry negative m exponent := by
  have same : unitExponent n d = exponent := (isUnitExponent_unitExponent posn posd).unique unit
  have rounded := nearestWhole_roundDiv (scaled n d exponent).1 (scaled_pos n posd exponent)
  rw [cast_scaled] at rounded
  unfold ofRatio carry
  rw [if_neg posn.ne']
  simp only [same, rounded.unique nearest]

/-- The number nearest to a rational number with a sign. -/
def ofRat (negative : Bool) (magnitude : ℚ) : Binary64 :=
  ofRatio negative magnitude.num.natAbs magnitude.den

theorem ofRat_zero (negative : Bool) : ofRat negative 0 = zero negative :=
  ofRatio_zero negative 1

theorem cast_num_div_den {q : ℚ} (nonneg : 0 ≤ q) : (q.num.natAbs : ℚ) / q.den = q := by
  have num : ((q.num.natAbs : Int) : ℚ) = q.num := by
    rw [Int.natAbs_of_nonneg (Rat.num_nonneg.mpr nonneg)]
  rw [← Int.cast_natCast, num, Rat.num_div_den]

theorem ofRat_eq_carry {q : ℚ} {m : Nat} {exponent : Int} (negative : Bool) (positive : 0 < q)
    (unit : IsUnitExponent exponent q) (nearest : NearestWhole m (q / 2 ^ exponent)) :
    ofRat negative q = carry negative m exponent := by
  have value := cast_num_div_den positive.le
  refine ofRatio_eq_carry negative ?_ q.den_pos (value.symm ▸ unit) (value.symm ▸ nearest)
  exact Int.natAbs_pos.mpr (Rat.num_pos.mpr positive).ne'

theorem exists_isUnitExponent {q : ℚ} (positive : 0 < q) :
    ∃ exponent m, IsUnitExponent exponent q ∧ NearestWhole m (q / 2 ^ exponent) := by
  have value := cast_num_div_den positive.le
  have unit := isUnitExponent_unitExponent (Int.natAbs_pos.mpr (Rat.num_pos.mpr positive).ne') q.den_pos
  have nearest := nearestWhole_roundDiv (scaled q.num.natAbs q.den (unitExponent q.num.natAbs q.den)).1
    (scaled_pos q.num.natAbs q.den_pos (unitExponent q.num.natAbs q.den))
  rw [cast_scaled, value] at nearest
  rw [value] at unit
  exact ⟨_, _, unit, nearest⟩

/-- Rounding depends on the value of a quotient and not on its terms. -/
theorem ofRatio_eq_ofRat (negative : Bool) (n : Nat) {d : Nat} (positive : 0 < d) :
    ofRatio negative n d = ofRat negative (n / d) := by
  rcases n.eq_zero_or_pos with rfl | posn
  · rw [ofRatio_zero, Nat.cast_zero, zero_div, ofRat_zero]
  have pos : (0 : ℚ) < n / d := by positivity
  obtain ⟨exponent, m, unit, nearest⟩ := exists_isUnitExponent pos
  rw [ofRatio_eq_carry negative posn positive unit nearest, ofRat_eq_carry negative pos unit nearest]

theorem ofNat_eq_ofRat (n : Nat) : ofNat n = ofRat false n := by
  rw [ofNat, ofRatio_eq_ofRat false n Nat.one_pos, Nat.cast_one, div_one]

theorem ofDyadic_eq_ofRat (negative : Bool) (magnitude : Nat) (exponent : Int) :
    ofDyadic negative magnitude exponent = ofRat negative (magnitude * 2 ^ exponent) := by
  rw [ofDyadic, ofRatio_eq_ofRat negative _ (Nat.two_pow_pos _)]
  obtain ⟨k, rfl | rfl⟩ := exponent.eq_nat_or_neg
  · simp
  · simp [div_eq_mul_inv]

/-! ## Numbers of 53 bits -/

theorem IsUnitExponent.of_canonical {m : Nat} {exponent : Int} (canonical : Canonical m exponent) :
    IsUnitExponent exponent (m * 2 ^ exponent) := by
  obtain ⟨bits, least, _, full⟩ := canonical
  refine ⟨least, ?_, full.symm.imp_right fun full => ?_⟩
  · rw [Int.add_comm, zpow_add₀ two_ne_zero]
    exact mul_lt_mul_of_pos_right (by exact_mod_cast bits) (by positivity)
  · rw [Int.add_comm, zpow_add₀ two_ne_zero]
    exact mul_le_mul_of_nonneg_right (by exact_mod_cast full) (by positivity)

/-- A number of 53 bits is not changed by rounding. -/
theorem ofRat_of_canonical {m : Nat} {exponent : Int} (negative : Bool) (canonical : Canonical m exponent) :
    ofRat negative (m * 2 ^ exponent) = finite negative m exponent canonical := by
  rcases m.eq_zero_or_pos with rfl | positive
  · obtain ⟨_, _, _, full⟩ := canonical
    have least : exponent = leastExponent := by
      rcases full with full | least
      · omega
      · exact least
    subst least
    rw [Nat.cast_zero, zero_mul, ofRat_zero]
    rfl
  · have nearest : NearestWhole m (m * 2 ^ exponent / 2 ^ exponent) := by
      rw [mul_div_cancel_right₀ _ (by positivity)]
      exact nearestWhole_natCast m
    rw [ofRat_eq_carry negative (by positivity) (.of_canonical canonical) nearest, carry,
      if_neg canonical.1.ne, pack_of_canonical negative canonical]

/-! ## Nearest numbers -/

/-- Half a unit above the greatest finite number: from here on numbers are rounded to infinity. -/
def overflowBound : ℚ :=
  (2 ^ 53 - 1 / 2) * 2 ^ greatestExponent

/-- Whether `x` is the number nearest to a rational one: no finite number is nearer, and where another
is as near, the significand of `x` is even. Beyond the bound the infinite number is the nearest. -/
def IsNearest (q : ℚ) : Binary64 → Prop
  | .nan => False
  | .infinite negative => overflowBound ≤ if negative then -q else q
  | .finite negative significand exponent _ =>
    |q| < overflowBound ∧ ∀ y w, value? y = some w →
      |q - signed negative significand * 2 ^ exponent| ≤ |q - w| ∧
        (|q - signed negative significand * 2 ^ exponent| = |q - w| →
          w = signed negative significand * 2 ^ exponent ∨ significand % 2 = 0)

section Unit

variable {q : ℚ} {m : Nat} {exponent : Int} (unit : IsUnitExponent exponent q)
  (nearest : NearestWhole m (q / 2 ^ exponent))

include nearest

/-- Among the multiples of the unit, the rounded one is nearest. -/
theorem nearest_multiple (other : Int) :
    |q - m * 2 ^ exponent| ≤ |q - other * 2 ^ exponent| ∧
      (|q - m * 2 ^ exponent| = |q - other * 2 ^ exponent| →
        (other : ℚ) * 2 ^ exponent = m * 2 ^ exponent ∨ m % 2 = 0) := by
  have positive : (0 : ℚ) < 2 ^ exponent := by positivity
  have scale : ∀ k : ℚ, |q - k * 2 ^ exponent| = |q / 2 ^ exponent - k| * 2 ^ exponent := by
    intro k
    rw [← abs_of_pos positive, ← abs_mul, abs_of_pos positive, sub_mul, div_mul_cancel₀ _ positive.ne']
  obtain ⟨le, even⟩ := nearest.le_abs_sub other
  rw [scale, scale]
  refine ⟨mul_le_mul_of_nonneg_right le positive.le, fun equal => ?_⟩
  refine (even (mul_right_cancel₀ positive.ne' equal)).imp_left fun same => ?_
  rw [same, Int.cast_natCast]

include unit

/-- A finite number with a smaller unit is further away than the least multiple of 53 bits. -/
theorem nearest_value {y : Binary64} {w : ℚ} (value : y.value? = some w) :
    |q - m * 2 ^ exponent| ≤ |q - w| ∧
      (|q - m * 2 ^ exponent| = |q - w| → w = m * 2 ^ exponent ∨ m % 2 = 0) := by
  cases y with
  | nan => cases value
  | infinite => cases value
  | finite negative k other canonical =>
    obtain rfl : (signed negative k : ℚ) * 2 ^ other = w := Option.some.inj value
    rcases le_or_gt exponent other with coarse | fine
    · obtain ⟨places, rfl⟩ := Int.le.dest coarse
      have multiple : (signed negative k : ℚ) * 2 ^ (exponent + places) =
          (signed negative k * 2 ^ places : Int) * 2 ^ exponent := by
        rw [zpow_add₀ two_ne_zero, zpow_natCast]
        push_cast
        ring
      rw [multiple]
      exact nearest_multiple nearest _
    · obtain ⟨bits, least, _, _⟩ := canonical
      have above : (2 : ℚ) ^ (exponent + 52) ≤ q := by
        rcases unit.above with lowest | above
        · omega
        · exact above
      have small : (signed negative k : ℚ) * 2 ^ other < 2 ^ (exponent + 52) := by
        calc (signed negative k : ℚ) * 2 ^ other ≤ k * 2 ^ other := by
              gcongr
              cases negative <;> simp [signed]
          _ < 2 ^ 53 * 2 ^ other := by
              gcongr
              exact_mod_cast bits
          _ = 2 ^ (53 + other) := by
              rw [zpow_add₀ two_ne_zero]
              rfl
          _ ≤ 2 ^ (exponent + 52) := zpow_le_zpow_right₀ one_le_two (by omega)
      have near := (nearest_multiple nearest (2 ^ 52)).1
      have power : ((2 ^ 52 : Int) : ℚ) * 2 ^ exponent = 2 ^ (exponent + 52) := by
        rw [zpow_add₀ two_ne_zero, mul_comm]
        norm_num
      rw [power, abs_of_nonneg (sub_nonneg.mpr above)] at near
      have far : |q - signed negative k * 2 ^ other| = q - signed negative k * 2 ^ other :=
        abs_of_pos (by linarith)
      rw [far]
      exact ⟨by linarith, fun equal => by linarith⟩

theorem significand_le : m ≤ 2 ^ 53 := by
  refine nearest.le_natCast ?_
  rw [div_le_iff₀ (by positivity)]
  have below := unit.below
  rw [Int.add_comm, zpow_add₀ two_ne_zero] at below
  exact_mod_cast below.le

theorem le_significand : exponent = leastExponent ∨ 2 ^ 52 ≤ m := by
  refine unit.above.imp_right fun above => nearest.natCast_le ?_
  rw [le_div_iff₀ (by positivity)]
  rw [Int.add_comm, zpow_add₀ two_ne_zero] at above
  exact_mod_cast above

end Unit

theorem carry_eq_finite {m : Nat} {exponent : Int} (negative : Bool) (bits : m ≤ 2 ^ 53)
    (least : leastExponent ≤ exponent) (full : exponent = leastExponent ∨ 2 ^ 52 ≤ m)
    (fits : exponent < greatestExponent ∨ exponent = greatestExponent ∧ m < 2 ^ 53) :
    ∃ k other canonical, carry negative m exponent = finite negative k other canonical ∧
      (k : ℚ) * 2 ^ other = m * 2 ^ exponent ∧ (m % 2 = 0 → k % 2 = 0) := by
  by_cases carried : m = 2 ^ 53
  · have canonical : Canonical (2 ^ 52) (exponent + 1) := by
      refine ⟨by decide, by omega, by omega, Or.inl le_rfl⟩
    refine ⟨2 ^ 52, exponent + 1, canonical, ?_, ?_, fun _ => by decide⟩
    · rw [carry, if_pos carried, pack_of_canonical]
    · rw [carried, zpow_add₀ two_ne_zero]
      push_cast
      ring
  · have canonical : Canonical m exponent := by
      refine ⟨by omega, least, by omega, full.symm⟩
    refine ⟨m, exponent, canonical, ?_, rfl, id⟩
    rw [carry, if_neg carried, pack_of_canonical]

theorem carry_eq_infinite {m : Nat} {exponent : Int} (negative : Bool)
    (beyond : greatestExponent < exponent ∨ exponent = greatestExponent ∧ m = 2 ^ 53) :
    carry negative m exponent = infinite negative := by
  unfold carry pack
  split
  · next carried =>
    rw [dif_neg]
    rintro ⟨_, _, fits, _⟩
    omega
  · next kept =>
    rw [dif_neg]
    rintro ⟨_, _, fits, _⟩
    omega

theorem lt_overflowBound {q : ℚ} {m : Nat} {exponent : Int} (unit : IsUnitExponent exponent q)
    (nearest : NearestWhole m (q / 2 ^ exponent))
    (fits : exponent < greatestExponent ∨ exponent = greatestExponent ∧ m < 2 ^ 53) :
    q < overflowBound := by
  unfold overflowBound
  rcases fits with small | ⟨rfl, kept⟩
  · calc q < 2 ^ (exponent + 53) := unit.below
      _ ≤ 2 ^ (52 + greatestExponent) := zpow_le_zpow_right₀ one_le_two (by omega)
      _ = 2 ^ 52 * 2 ^ greatestExponent := by
          rw [zpow_add₀ two_ne_zero]
          rfl
      _ ≤ (2 ^ 53 - 1 / 2) * 2 ^ greatestExponent := by
          gcongr
          norm_num
  · rw [← div_lt_iff₀ (by positivity)]
    have bounds := nearest.bounds
    rcases nearest with near | ⟨_, even⟩
    · have le : (m : ℚ) + 1 ≤ 2 ^ 53 := by exact_mod_cast kept
      have := (abs_lt.mp near).2
      linarith
    · -- A tie goes to an even significand, which the greatest one is not.
      have le : (m : ℚ) + 2 ≤ 2 ^ 53 := by
        have : m + 2 ≤ 2 ^ 53 := by omega
        exact_mod_cast this
      linarith

theorem overflowBound_le {q : ℚ} {m : Nat} {exponent : Int} (unit : IsUnitExponent exponent q)
    (nearest : NearestWhole m (q / 2 ^ exponent))
    (beyond : greatestExponent < exponent ∨ exponent = greatestExponent ∧ m = 2 ^ 53) :
    overflowBound ≤ q := by
  unfold overflowBound
  rcases beyond with large | ⟨rfl, carried⟩
  · have above : (2 : ℚ) ^ (exponent + 52) ≤ q := by
      rcases unit.above with least | above
      · rw [least] at large
        exact absurd large (by decide)
      · exact above
    calc (2 ^ 53 - 1 / 2) * (2 : ℚ) ^ greatestExponent ≤ 2 ^ 53 * 2 ^ greatestExponent := by
          gcongr
          norm_num
      _ = 2 ^ (53 + greatestExponent) := by
          rw [zpow_add₀ two_ne_zero]
          rfl
      _ ≤ 2 ^ (exponent + 52) := zpow_le_zpow_right₀ one_le_two (by omega)
      _ ≤ q := above
  · rw [← le_div_iff₀ (by positivity)]
    have bounds := nearest.bounds.1
    rw [carried] at bounds
    push_cast at bounds
    linarith

/-- A rational number that is not negative is rounded to the number nearest to it. -/
theorem isNearest_ofRat {q : ℚ} (nonneg : 0 ≤ q) : IsNearest q (ofRat false q) := by
  rcases nonneg.eq_or_lt with rfl | positive
  · rw [ofRat_zero]
    refine ⟨?_, fun y w _ => ?_⟩
    · rw [abs_zero, overflowBound]
      norm_num
      positivity
    · simp [signed]
  obtain ⟨exponent, m, unit, nearest⟩ := exists_isUnitExponent positive
  rw [ofRat_eq_carry false positive unit nearest]
  by_cases fits : exponent < greatestExponent ∨ exponent = greatestExponent ∧ m < 2 ^ 53
  · obtain ⟨k, other, canonical, rounded, value, even⟩ := carry_eq_finite false
      (significand_le unit nearest) unit.least (le_significand unit nearest) fits
    rw [rounded]
    refine ⟨?_, fun y w finite => ?_⟩
    · rw [abs_of_pos positive]
      exact lt_overflowBound unit nearest fits
    · have same : (signed false k : ℚ) * 2 ^ other = m * 2 ^ exponent := value
      obtain ⟨le, tie⟩ := nearest_value unit nearest finite
      rw [same]
      exact ⟨le, fun equal => (tie equal).imp_right even⟩
  · have beyond : greatestExponent < exponent ∨ exponent = greatestExponent ∧ m = 2 ^ 53 := by
      have bits := significand_le unit nearest
      omega
    rw [carry_eq_infinite false beyond]
    exact overflowBound_le unit nearest beyond

/-! ## Numbers that are rounded to themselves -/

/-- Rounding ends with a pair that is packed. -/
theorem exists_ofRatio_eq_pack (negative : Bool) (n d : Nat) :
    ∃ m exponent, ofRatio negative n d = pack negative m exponent := by
  unfold ofRatio
  split
  · exact ⟨0, leastExponent, (pack_of_canonical negative (by decide)).symm⟩
  · simp only
    split
    · exact ⟨_, _, rfl⟩
    · exact ⟨_, _, rfl⟩

theorem ofRatio_ne_nan (negative : Bool) (n d : Nat) : ofRatio negative n d ≠ nan := by
  obtain ⟨m, exponent, packed⟩ := exists_ofRatio_eq_pack negative n d
  rw [packed, pack]
  split <;> simp

theorem isNegative_ofRat (negative : Bool) (q : ℚ) : (ofRat negative q).isNegative = negative := by
  obtain ⟨m, exponent, packed⟩ := exists_ofRatio_eq_pack negative q.num.natAbs q.den
  rw [ofRat, packed, pack]
  split <;> rfl

theorem value?_zero (negative : Bool) : (zero negative).value? = some 0 := by
  cases negative <;> simp [zero, value?, signed]

/-- Whether a rational number is the value of a finite number. -/
def Representable (q : ℚ) : Prop :=
  ∃ y : Binary64, y.value? = some q

theorem representable_zero : Representable 0 :=
  ⟨zero false, value?_zero false⟩

theorem Representable.abs {q : ℚ} (representable : Representable q) :
    ∃ m exponent, Canonical m exponent ∧ |q| = m * 2 ^ exponent := by
  obtain ⟨y, value⟩ := representable
  cases y with
  | nan => cases value
  | infinite => cases value
  | finite negative m exponent canonical =>
    obtain rfl : (signed negative m : ℚ) * 2 ^ exponent = q := Option.some.inj value
    refine ⟨m, exponent, canonical, ?_⟩
    rw [abs_mul, abs_of_pos (by positivity : (0 : ℚ) < 2 ^ exponent)]
    cases negative <;> simp [signed]

/-- Rounding does not change a number that is represented. -/
theorem value?_ofRat {q : ℚ} (representable : Representable q) (negative : Bool) :
    (ofRat negative |q|).value? = some (if negative then -|q| else |q|) := by
  obtain ⟨m, exponent, canonical, value⟩ := representable.abs
  rw [value, ofRat_of_canonical negative canonical]
  cases negative <;> simp [value?, signed]

/-- Whole numbers of 53 bits, and `2 ^ 53`, are represented, also times a power of two. -/
theorem representable_mul_two_pow {m places : Nat} (bits : m ≤ 2 ^ 53) (fits : places < 971) :
    Representable (m * 2 ^ places) := by
  rcases m.eq_zero_or_pos with rfl | positive
  · rw [Nat.cast_zero, zero_mul]
    exact representable_zero
  -- The significand is filled up to 53 bits.
  have low : 2 ^ 52 ≤ m * 2 ^ (52 - m.log2) := by
    calc 2 ^ 52 ≤ 2 ^ (m.log2 + (52 - m.log2)) := Nat.pow_le_pow_right (by decide) (by omega)
      _ = 2 ^ m.log2 * 2 ^ (52 - m.log2) := Nat.pow_add ..
      _ ≤ m * 2 ^ (52 - m.log2) := Nat.mul_le_mul_right _ (Nat.log2_self_le positive.ne')
  have high : m * 2 ^ (52 - m.log2) ≤ 2 ^ 53 := by
    rcases Nat.lt_or_ge 52 m.log2 with many | few
    · rw [Nat.sub_eq_zero_of_le many.le, Nat.pow_zero, Nat.mul_one]
      exact bits
    · calc m * 2 ^ (52 - m.log2) ≤ 2 ^ (m.log2 + 1) * 2 ^ (52 - m.log2) :=
          Nat.mul_le_mul_right _ Nat.lt_log2_self.le
        _ = 2 ^ 53 := by
          rw [← Nat.pow_add]
          congr 1
          omega
  have least : leastExponent ≤ places - (52 - m.log2 : Nat) := by
    unfold leastExponent
    omega
  have greatest : places - (52 - m.log2 : Nat) < greatestExponent := by
    unfold greatestExponent
    omega
  obtain ⟨k, other, canonical, _, value, _⟩ :=
    carry_eq_finite false high least (Or.inr low) (Or.inl greatest)
  refine ⟨finite false k other canonical, ?_⟩
  have scaled : ((m * 2 ^ (52 - m.log2) : Nat) : ℚ) * 2 ^ (places - (52 - m.log2 : Nat) : Int) =
      m * 2 ^ places := by
    rw [zpow_sub₀ two_ne_zero, zpow_natCast, zpow_natCast]
    push_cast
    field_simp
  exact congrArg some (value.trans scaled)

theorem representable_natCast {n : Nat} (bits : n ≤ 2 ^ 53) : Representable n := by
  have whole : Representable (n * 2 ^ 0) := representable_mul_two_pow bits (by decide)
  rwa [pow_zero, mul_one] at whole

theorem value?_ofNat {n : Nat} (bits : n ≤ 2 ^ 53) : (ofNat n).value? = some (n : ℚ) := by
  have value := value?_ofRat (representable_natCast bits) false
  rw [Nat.abs_cast] at value
  rw [ofNat_eq_ofRat, value]
  rfl

end DocumentQuery.Binary64
