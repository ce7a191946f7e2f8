import DocumentQuery.Binary64.Arithmetic
import DocumentQuery.Proofs.Binary64.Rounding

/-!
Exact sums and products of binary64 numbers.

A sum or a product is the exact one, rounded once (`add_eq_ofRat`, `mul_eq_ofRat`); where the exact one
is represented, it is the result. For whole numbers of more than 53 bits it is said what rounding
keeps: multiplied by a power of two such a number keeps its significand, and a digit that is put in
the place that this leaves free is lost (`mul_two_pow_add_digit`).
-/

namespace DocumentQuery.Binary64

variable {x y : Binary64} {v w : ℚ}

/-! ## Exact results -/

theorem value_eq_signed (value : x.value? = some v) : v = if x.isNegative then -|v| else |v| := by
  cases x with
  | nan => cases value
  | infinite => cases value
  | finite negative m exponent canonical =>
    obtain rfl : (signed negative m : ℚ) * 2 ^ exponent = v := Option.some.inj value
    have nonneg : (0 : ℚ) ≤ m * 2 ^ exponent := by positivity
    cases negative with
    | false => simp [isNegative, signed, abs_of_nonneg nonneg]
    | true => simp [isNegative, signed, neg_mul, abs_neg, abs_of_nonneg nonneg]

theorem value?_neg (value : x.value? = some v) : x.neg.value? = some (-v) := by
  cases x with
  | nan => cases value
  | infinite => cases value
  | finite negative m exponent canonical =>
    obtain rfl : (signed negative m : ℚ) * 2 ^ exponent = v := Option.some.inj value
    cases negative <;> simp [neg, value?, signed]

/-- A product is the exact product, rounded. -/
theorem mul_eq_ofRat (left : x.value? = some v) (right : y.value? = some w) :
    x.mul y = ofRat (x.isNegative != y.isNegative) |v * w| := by
  cases x with
  | nan => cases left
  | infinite => cases left
  | finite s m e canonical =>
    cases y with
    | nan => cases right
    | infinite => cases right
    | finite t n f canonical' =>
      obtain rfl : (signed s m : ℚ) * 2 ^ e = v := Option.some.inj left
      obtain rfl : (signed t n : ℚ) * 2 ^ f = w := Option.some.inj right
      have magnitude : |(signed s m : ℚ) * 2 ^ e * (signed t n * 2 ^ f)| =
          (m * n : Nat) * 2 ^ (e + f) := by
        have absolute : ∀ (s : Bool) (m : Nat), |(signed s m : ℚ)| = m := by
          intro s m
          cases s <;> simp [signed]
        rw [abs_mul, abs_mul, abs_mul, absolute, absolute, abs_of_pos (by positivity : (0 : ℚ) < 2 ^ e),
          abs_of_pos (by positivity : (0 : ℚ) < 2 ^ f), zpow_add₀ two_ne_zero]
        push_cast
        ring
      rw [magnitude, mul, ofDyadic_eq_ofRat]
      rfl

/-- The same signed multiple in a smaller unit. -/
theorem signed_mul_two_pow (negative : Bool) (m : Nat) {unit exponent : Int} (le : unit ≤ exponent) :
    (signed negative (m * 2 ^ (exponent - unit).toNat) : ℚ) * 2 ^ unit =
      signed negative m * 2 ^ exponent := by
  obtain ⟨places, rfl⟩ := Int.le.dest le
  rw [add_sub_cancel_left, Int.toNat_natCast, signed_mul, zpow_add₀ two_ne_zero, zpow_natCast]
  push_cast
  ring

/-- A sum is the exact sum, rounded; if this is zero, it is negative when both sides are. -/
theorem add_eq_ofRat (left : x.value? = some v) (right : y.value? = some w) :
    x.add y = if v + w = 0 then zero (x.isNegative && y.isNegative)
      else ofRat (decide (v + w < 0)) |v + w| := by
  cases x with
  | nan => cases left
  | infinite => cases left
  | finite s m e canonical =>
    cases y with
    | nan => cases right
    | infinite => cases right
    | finite t n f canonical' =>
      obtain rfl : (signed s m : ℚ) * 2 ^ e = v := Option.some.inj left
      obtain rfl : (signed t n : ℚ) * 2 ^ f = w := Option.some.inj right
      have left := signed_mul_two_pow s m (min_le_left e f)
      have right := signed_mul_two_pow t n (min_le_right e f)
      unfold add
      simp only
      generalize signed s (m * 2 ^ (e - min e f).toNat) = a at left ⊢
      generalize signed t (n * 2 ^ (f - min e f).toNat) = b at right ⊢
      have positive : (0 : ℚ) < 2 ^ min e f := by positivity
      have sum : (signed s m : ℚ) * 2 ^ e + signed t n * 2 ^ f = (a + b : Int) * 2 ^ min e f := by
        rw [← left, ← right]
        push_cast
        ring
      have isZero : ((a + b : Int) : ℚ) * 2 ^ min e f = 0 ↔ a + b = 0 := by
        rw [mul_eq_zero, or_iff_left positive.ne', Int.cast_eq_zero]
      have isNegative : ((a + b : Int) : ℚ) * 2 ^ min e f < 0 ↔ a + b < 0 := by
        rw [← zero_mul ((2 : ℚ) ^ min e f), mul_lt_mul_iff_left₀ positive, Int.cast_lt_zero]
      have magnitude : |((a + b : Int) : ℚ) * 2 ^ min e f| = (a + b).natAbs * 2 ^ min e f := by
        rw [abs_mul, abs_of_pos positive, Nat.cast_natAbs, Int.cast_abs]
      simp only [sum, isZero, isNegative, magnitude, ofDyadic_eq_ofRat]
      rfl

/-! ## Results that are represented -/

theorem value?_mul (left : x.value? = some v) (right : y.value? = some w)
    (exact : Representable (v * w)) : (x.mul y).value? = some (v * w) := by
  have signs := value_eq_signed left
  have signs' := value_eq_signed right
  rw [mul_eq_ofRat left right, value?_ofRat exact, abs_mul]
  congr 1
  conv_rhs => rw [signs, signs']
  cases x.isNegative <;> cases y.isNegative <;> simp

theorem value?_add (left : x.value? = some v) (right : y.value? = some w)
    (exact : Representable (v + w)) : (x.add y).value? = some (v + w) := by
  rw [add_eq_ofRat left right]
  split
  · next cancelled => rw [value?_zero, cancelled]
  · rw [value?_ofRat exact]
    congr 1
    by_cases below : v + w < 0
    · rw [if_pos (decide_eq_true below), abs_of_neg below]
      ring
    · rw [if_neg (by simpa using below), abs_of_nonneg (not_lt.mp below)]

theorem value?_sub (left : x.value? = some v) (right : y.value? = some w)
    (exact : Representable (v - w)) : (x.sub y).value? = some (v - w) := by
  rw [sub_eq_add_neg] at exact ⊢
  exact value?_add left (value?_neg right) exact

/-! ## Whole numbers -/

theorem isNegative_ofNat (n : Nat) : (ofNat n).isNegative = false := by
  rw [ofNat_eq_ofRat, isNegative_ofRat]

theorem ofNat_mul_ofNat {m n : Nat} (left : m ≤ 2 ^ 53) (right : n ≤ 2 ^ 53) :
    (ofNat m).mul (ofNat n) = ofNat (m * n) := by
  rw [mul_eq_ofRat (value?_ofNat left) (value?_ofNat right), isNegative_ofNat, isNegative_ofNat,
    ofNat_eq_ofRat, ← Nat.cast_mul, Nat.abs_cast]
  rfl

/-- The sum of two whole numbers is rounded once, when the first is represented. -/
theorem add_ofNat {m n : Nat} (exact : Representable m) (right : n ≤ 2 ^ 53) :
    (ofNat m).add (ofNat n) = ofNat (m + n) := by
  have left := value?_ofRat exact false
  rw [Nat.abs_cast, ← ofNat_eq_ofRat] at left
  rw [add_eq_ofRat left (value?_ofNat right), isNegative_ofNat, isNegative_ofNat]
  simp only [Bool.false_eq_true, if_false, ← Nat.cast_add, Nat.cast_eq_zero, Nat.abs_cast]
  split
  · next nothing =>
    rw [nothing]
    rfl
  · have notBelow : ¬ ((m + n : Nat) : ℚ) < 0 := not_lt.mpr (Nat.cast_nonneg _)
    rw [decide_eq_false notBelow, ofNat_eq_ofRat]

/-! ## Infinite numbers -/

theorem infinite_mul (negative : Bool) (value : y.value? = some w) (nonzero : w ≠ 0) :
    (infinite negative).mul y = infinite (negative != y.isNegative) := by
  cases y with
  | nan => cases value
  | infinite => cases value
  | finite t n f canonical =>
    have significand : n ≠ 0 := by
      rintro rfl
      obtain rfl : (signed t 0 : ℚ) * 2 ^ f = w := Option.some.inj value
      cases t <;> simp [signed] at nonzero
    exact if_neg significand

theorem infinite_add (negative : Bool) (value : y.value? = some w) :
    (infinite negative).add y = infinite negative := by
  cases y with
  | nan => cases value
  | infinite => cases value
  | finite => rfl

/-! ## Whole numbers beyond 53 bits -/

section Full

variable {m : Nat} {exponent : Int} (low : 2 ^ 52 ≤ m) (high : m < 2 ^ 53)
  (least : leastExponent ≤ exponent)

include low high least

/-- A significand of 53 bits is packed with its exponent, or the number is infinite. -/
theorem pack_cases (negative : Bool) :
    (∃ canonical, pack negative m exponent = finite negative m exponent canonical) ∨
      greatestExponent < exponent ∧ pack negative m exponent = infinite negative := by
  by_cases fits : exponent ≤ greatestExponent
  · have canonical : Canonical m exponent := ⟨high, least, fits, Or.inl low⟩
    exact Or.inl ⟨canonical, pack_of_canonical negative canonical⟩
  · refine Or.inr ⟨not_le.mp fits, dif_neg ?_⟩
    rintro ⟨_, _, within, _⟩
    exact fits within

/-- A number of 53 bits is not changed by less than half its unit. -/
theorem ofRat_add_small {r : ℚ} (nonneg : 0 ≤ r) (small : 2 * r < 2 ^ exponent) (negative : Bool) :
    ofRat negative (m * 2 ^ exponent + r) = pack negative m exponent := by
  have unit : (0 : ℚ) < 2 ^ exponent := by positivity
  have bits : (m : ℚ) + 1 ≤ 2 ^ 53 := by exact_mod_cast high
  have full : (2 : ℚ) ^ 52 ≤ m := by exact_mod_cast low
  have isUnit : IsUnitExponent exponent (m * 2 ^ exponent + r) := by
    refine ⟨least, ?_, Or.inr ?_⟩
    · calc (m : ℚ) * 2 ^ exponent + r < (m + 1) * 2 ^ exponent := by linarith
        _ ≤ 2 ^ 53 * 2 ^ exponent := mul_le_mul_of_nonneg_right bits unit.le
        _ = 2 ^ (exponent + 53) := by
          rw [zpow_add₀ two_ne_zero, mul_comm]
          rfl
    · calc (2 : ℚ) ^ (exponent + 52) = 2 ^ 52 * 2 ^ exponent := by
            rw [zpow_add₀ two_ne_zero, mul_comm]
            rfl
        _ ≤ m * 2 ^ exponent := mul_le_mul_of_nonneg_right full unit.le
        _ ≤ m * 2 ^ exponent + r := le_add_of_nonneg_right nonneg
  have nearest : NearestWhole m ((m * 2 ^ exponent + r) / 2 ^ exponent) := by
    left
    have part : (m * 2 ^ exponent + r) / 2 ^ exponent - m = r / 2 ^ exponent := by
      field_simp
      ring
    rw [part, abs_of_nonneg (by positivity), div_lt_div_iff₀ unit two_pos]
    linarith
  have positive : (0 : ℚ) < m * 2 ^ exponent + r := by
    have : (0 : ℚ) < m := by linarith
    positivity
  rw [ofRat_eq_carry negative positive isUnit nearest, carry, if_neg high.ne]

theorem ofRat_of_full (negative : Bool) : ofRat negative (m * 2 ^ exponent) = pack negative m exponent := by
  have whole := ofRat_add_small low high least le_rfl (by rw [mul_zero]; positivity) negative
  rwa [add_zero] at whole

theorem pack_mul_two_pow {places : Nat} (few : places ≤ 53) :
    (pack false m exponent).mul (ofNat (2 ^ places)) = pack false m (exponent + places) := by
  have power := value?_ofNat (Nat.pow_le_pow_right (by decide) few : 2 ^ places ≤ 2 ^ 53)
  have higher : leastExponent ≤ exponent + places := by omega
  rcases pack_cases low high least false with ⟨canonical, packed⟩ | ⟨beyond, packed⟩
  · have value : (finite false m exponent canonical).value? = some ((m : ℚ) * 2 ^ exponent) := rfl
    have product : |(m : ℚ) * 2 ^ exponent * (2 ^ places : Nat)| = m * 2 ^ (exponent + places) := by
      rw [abs_of_nonneg (by positivity), zpow_add₀ two_ne_zero, zpow_natCast]
      push_cast
      ring
    rw [packed, mul_eq_ofRat value power, isNegative_ofNat, product, ofRat_of_full low high higher]
    rfl
  · have overflow : pack false m (exponent + places) = infinite false := by
      rcases pack_cases low high higher false with ⟨canonical, _⟩ | ⟨_, packed⟩
      · have := canonical.2.2.1
        omega
      · exact packed
    have nonzero : ((2 ^ places : Nat) : ℚ) ≠ 0 := Nat.cast_ne_zero.mpr (Nat.two_pow_pos places).ne'
    rw [packed, overflow, infinite_mul false power nonzero, isNegative_ofNat]
    rfl

theorem pack_add_small {d : Nat} (few : d ≤ 2 ^ 53) (small : 2 * (d : ℚ) < 2 ^ exponent) :
    (pack false m exponent).add (ofNat d) = pack false m exponent := by
  have right := value?_ofNat few
  rcases pack_cases low high least false with ⟨canonical, packed⟩ | ⟨_, packed⟩
  · have value : (finite false m exponent canonical).value? = some ((m : ℚ) * 2 ^ exponent) := rfl
    have positive : (0 : ℚ) < m * 2 ^ exponent + d := by
      have : (0 : ℚ) < m := Nat.cast_pos.mpr (by omega)
      positivity
    have sum := ofRat_add_small low high least (Nat.cast_nonneg d) small false
    rw [packed, add_eq_ofRat value right, if_neg positive.ne', decide_eq_false positive.le.not_gt,
      abs_of_pos positive, sum, packed]
  · rw [packed, infinite_add false right]

end Full

theorem roundDiv_mul_right (n : Nat) {d k : Nat} (positive : 0 < d) (pos : 0 < k) :
    roundDiv (n * k) (d * k) = roundDiv n d := by
  have scaled := nearestWhole_roundDiv (n * k) (Nat.mul_pos positive pos)
  have nonzero : (k : ℚ) ≠ 0 := Nat.cast_ne_zero.mpr pos.ne'
  rw [Nat.cast_mul, Nat.cast_mul, mul_div_mul_right _ _ nonzero] at scaled
  exact scaled.unique (nearestWhole_roundDiv n positive)

section Places

variable {n places : Nat} (low : 2 ^ (places + 52) ≤ n) (high : n < 2 ^ (places + 53))

include low high

/-- A whole number with `places` bits more than 53 is rounded to a multiple of `2 ^ places`. -/
theorem ofNat_eq_carry : ofNat n = carry false (roundDiv n (2 ^ places)) places := by
  have positive : 0 < n := (Nat.two_pow_pos _).trans_le low
  have unit : IsUnitExponent places ((n : ℚ) / (1 : Nat)) := by
    rw [Nat.cast_one, div_one]
    refine ⟨by unfold leastExponent; omega, ?_, Or.inr ?_⟩
    · exact_mod_cast high
    · exact_mod_cast low
  have nearest := nearestWhole_roundDiv n (Nat.two_pow_pos places)
  refine ofRatio_eq_carry false positive Nat.one_pos unit ?_
  rw [Nat.cast_one, div_one, zpow_natCast]
  exact_mod_cast nearest

theorem roundDiv_bounds : 2 ^ 52 ≤ roundDiv n (2 ^ places) ∧ roundDiv n (2 ^ places) ≤ 2 ^ 53 := by
  have nearest := nearestWhole_roundDiv n (Nat.two_pow_pos places)
  have unit : (0 : ℚ) < (2 ^ places : Nat) := by positivity
  constructor
  · refine nearest.natCast_le ?_
    rw [le_div_iff₀ unit, ← Nat.cast_mul, ← Nat.pow_add, Nat.add_comm]
    exact_mod_cast low
  · refine nearest.le_natCast ?_
    rw [div_le_iff₀ unit, ← Nat.cast_mul, ← Nat.pow_add, Nat.add_comm]
    exact_mod_cast high.le

/-- Multiplied by a power of two, it keeps its significand. -/
theorem ofNat_mul_two_pow (more : Nat) :
    ofNat (n * 2 ^ more) = carry false (roundDiv n (2 ^ places)) (places + more) := by
  have power := Nat.two_pow_pos more
  have low' : 2 ^ (places + more + 52) ≤ n * 2 ^ more := by
    rw [Nat.add_right_comm, Nat.pow_add]
    exact Nat.mul_le_mul_right _ low
  have high' : n * 2 ^ more < 2 ^ (places + more + 53) := by
    rw [Nat.add_right_comm, Nat.pow_add]
    exact Nat.mul_lt_mul_of_pos_right high power
  rw [ofNat_eq_carry low' high', Nat.pow_add, roundDiv_mul_right n (Nat.two_pow_pos places) power,
    Nat.cast_add]

end Places

/-- A carry leaves a significand of 53 bits. -/
theorem exists_carry_eq_pack {m : Nat} (low : 2 ^ 52 ≤ m) (high : m ≤ 2 ^ 53) (exponent : Int) :
    ∃ (k : Nat) (other : Int), 2 ^ 52 ≤ k ∧ k < 2 ^ 53 ∧ exponent ≤ other ∧
      ∀ more : Nat, carry false m (exponent + more) = pack false k (other + more) := by
  by_cases carried : m = 2 ^ 53
  · refine ⟨2 ^ 52, exponent + 1, le_rfl, by decide, by omega, fun more => ?_⟩
    rw [carry, if_pos carried, add_right_comm]
  · refine ⟨m, exponent, low, by omega, le_rfl, fun more => ?_⟩
    rw [carry, if_neg carried]

/-- A digit behind a whole number of more than 53 bits is lost. -/
theorem mul_two_pow_add_digit {n d places : Nat} (bits : 2 ^ 53 ≤ n) (few : places ≤ 53)
    (digit : d < 2 ^ places) :
    ((ofNat n).mul (ofNat (2 ^ places))).add (ofNat d) = ofNat (n * 2 ^ places) := by
  have positive : n ≠ 0 := by omega
  have log : 53 ≤ n.log2 := (Nat.le_log2 positive).mpr bits
  have low : 2 ^ (n.log2 - 52 + 52) ≤ n := by
    rw [Nat.sub_add_cancel (by omega)]
    exact Nat.log2_self_le positive
  have high : n < 2 ^ (n.log2 - 52 + 53) := by
    have exponent : n.log2 - 52 + 53 = n.log2 + 1 := by omega
    rw [exponent]
    exact Nat.lt_log2_self
  obtain ⟨bound, bound'⟩ := roundDiv_bounds low high
  obtain ⟨k, exponent, full, full', le, packed⟩ :=
    exists_carry_eq_pack bound bound' (n.log2 - 52 : Nat)
  have whole : ofNat n = pack false k exponent := by
    have unscaled := ofNat_mul_two_pow low high 0
    rw [Nat.pow_zero, Nat.mul_one, packed 0] at unscaled
    simpa using unscaled
  have least : leastExponent ≤ exponent := by
    unfold leastExponent
    omega
  have half : 2 * (d : ℚ) < 2 ^ (exponent + places) := by
    calc 2 * (d : ℚ) < 2 * 2 ^ places := by
          have : (d : ℚ) < 2 ^ places := by exact_mod_cast digit
          linarith
      _ = 2 ^ (1 + places : Int) := by
          rw [zpow_add₀ two_ne_zero, zpow_one, zpow_natCast]
      _ ≤ 2 ^ (exponent + places) := zpow_le_zpow_right₀ one_le_two (by omega)
  have small : d ≤ 2 ^ 53 := digit.le.trans (Nat.pow_le_pow_right (by decide) few)
  rw [ofNat_mul_two_pow low high places, packed places, whole,
    pack_mul_two_pow full full' least few,
    pack_add_small full full' (by omega) small half]

/-! ## Bits behind a number -/

/-- Whether a whole number lies half way between two binary64 numbers next to each other, of which the
lower one has the even significand. -/
def TiesDown (n : Nat) : Prop :=
  2 * (n % 2 ^ (n.log2 - 52)) = 2 ^ (n.log2 - 52) ∧ n / 2 ^ (n.log2 - 52) % 2 = 0

instance (n : Nat) : Decidable (TiesDown n) :=
  inferInstanceAs (Decidable (_ ∧ _))

/-- Bits behind the ones that are rounded matter to a tie only, and then to one that goes down. -/
theorem roundDiv_append {k t places more : Nat} (lost : 1 ≤ places) (small : t < 2 ^ more) :
    roundDiv (k * 2 ^ more + t) (2 ^ (places + more)) =
      if t ≠ 0 ∧ 2 * (k % 2 ^ places) = 2 ^ places ∧ k / 2 ^ places % 2 = 0 then k / 2 ^ places + 1
      else roundDiv k (2 ^ places) := by
  have half : 2 ^ places = 2 * 2 ^ (places - 1) := by
    rw [← Nat.pow_succ', Nat.succ_eq_add_one, Nat.sub_add_cancel lost]
  have positive := Nat.two_pow_pos more
  have front : (k * 2 ^ more + t) / 2 ^ more = k := by
    rw [Nat.mul_comm, Nat.mul_add_div positive, Nat.div_eq_of_lt small, Nat.add_zero]
  have quotient : (k * 2 ^ more + t) / 2 ^ (places + more) = k / 2 ^ places := by
    rw [Nat.add_comm places, Nat.pow_add, ← Nat.div_div_eq_div_mul, front]
  have remainder : (k * 2 ^ more + t) % 2 ^ (places + more) = k % 2 ^ places * 2 ^ more + t := by
    rw [Nat.add_comm places, Nat.pow_add, Nat.mod_mul, front, Nat.mul_comm k, Nat.mul_add_mod,
      Nat.mod_eq_of_lt small]
    ring
  unfold roundDiv
  simp only [quotient, remainder]
  rw [Nat.pow_add, half, Nat.mul_assoc]
  generalize k % (2 * 2 ^ (places - 1)) = r
  generalize k / (2 * 2 ^ (places - 1)) = q
  generalize 2 ^ (places - 1) = h
  generalize 2 ^ more = w at small positive
  rcases Nat.lt_trichotomy r h with below | rfl | above
  · have next := Nat.mul_le_mul_right w (Nat.succ_le_of_lt below)
    rw [Nat.succ_mul] at next
    rw [if_pos (Or.inl (by omega)), if_neg (by omega), if_pos (Or.inl (by omega))]
  · by_cases none : t = 0
    · subst none
      simp
    · by_cases even : q % 2 = 0
      · rw [if_neg (by omega), if_pos ⟨none, rfl, even⟩]
      · rw [if_neg (by omega), if_neg (by omega), if_neg (by omega)]
  · have next := Nat.mul_le_mul_right w (Nat.succ_le_of_lt above)
    rw [Nat.succ_mul] at next
    rw [if_neg (by omega), if_neg (by omega), if_neg (by omega)]

/-- Bits behind a whole number of more than 53 bits change what it is rounded to exactly when without
them it lies half way between two numbers and goes down to the lower one. -/
theorem ofNat_append_eq_iff {k t more : Nat} (bits : 2 ^ 53 ≤ k) (small : t < 2 ^ more) :
    ofNat (k * 2 ^ more) = ofNat (k * 2 ^ more + t) ↔
      t = 0 ∨ ¬ TiesDown (k * 2 ^ more) ∨ ofNat (k * 2 ^ more) = infinite false := by
  have log : 53 ≤ k.log2 := (Nat.le_log2 (by omega)).mpr bits
  obtain ⟨places, same⟩ : ∃ places, k.log2 = places + 52 := ⟨k.log2 - 52, by omega⟩
  obtain ⟨low, high⟩ := (Nat.log2_eq_iff (by omega)).mp same
  have positive := Nat.two_pow_pos more
  have low' : 2 ^ (places + more + 52) ≤ k * 2 ^ more := by
    rw [Nat.add_right_comm, Nat.pow_add]
    exact Nat.mul_le_mul_right _ low
  have high' : k * 2 ^ more + t < 2 ^ (places + more + 53) := by
    have exponent : places + 52 + 1 + more = places + more + 53 := by omega
    have next := Nat.mul_le_mul_right (2 ^ more) (Nat.succ_le_of_lt high)
    rw [Nat.succ_mul, ← Nat.pow_add, exponent] at next
    omega
  have high'' : k * 2 ^ more < 2 ^ (places + more + 53) := by omega
  have low'' : 2 ^ (places + more + 52) ≤ k * 2 ^ more + t := by omega
  have nonzero : k * 2 ^ more ≠ 0 := Nat.mul_ne_zero (by omega) positive.ne'
  have log' : (k * 2 ^ more).log2 = places + more + 52 :=
    (Nat.log2_eq_iff nonzero).mpr ⟨low', high''⟩
  have ties : TiesDown (k * 2 ^ more) ↔ 2 * (k % 2 ^ places) = 2 ^ places ∧ k / 2 ^ places % 2 = 0 := by
    unfold TiesDown
    rw [log', Nat.add_sub_cancel, Nat.pow_add, Nat.mul_mod_mul_right, Nat.mul_div_mul_right _ _ positive,
      ← Nat.mul_assoc, Nat.mul_left_inj positive.ne']
  rw [ofNat_eq_carry low' high'', ofNat_eq_carry low'' high',
    roundDiv_append (by omega) small, Nat.pow_add, roundDiv_mul_right k (Nat.two_pow_pos places) positive,
    ties]
  split
  · next lost =>
    obtain ⟨some, tie⟩ := lost
    have down : roundDiv k (2 ^ places) = k / 2 ^ places := if_pos (Or.inr tie)
    have unit := Nat.two_pow_pos places
    have full : 2 ^ 52 ≤ k / 2 ^ places := by
      rw [Nat.le_div_iff_mul_le unit, ← Nat.pow_add, Nat.add_comm]
      exact low
    have even := tie.2
    have bound : k / 2 ^ places < 2 ^ 53 := by
      rw [Nat.div_lt_iff_lt_mul unit, ← Nat.pow_add, Nat.add_comm]
      exact high
    have least : leastExponent ≤ ((places + more : Nat) : Int) := by
      unfold leastExponent
      omega
    have notCarried : k / 2 ^ places ≠ 2 ^ 53 ∧ k / 2 ^ places + 1 ≠ 2 ^ 53 := by omega
    rw [down, carry, if_neg notCarried.1, carry, if_neg notCarried.2, or_iff_right some,
      or_iff_right (not_not.mpr tie)]
    generalize k / 2 ^ places = q at full bound even
    rcases pack_cases full bound least false with ⟨canonical, packed⟩ | ⟨beyond, packed⟩
    · rw [packed]
      refine iff_of_false ?_ (by simp)
      rcases pack_cases (by omega : 2 ^ 52 ≤ q + 1) (by omega) least false with
        ⟨_, packed⟩ | ⟨_, packed⟩
      · rw [packed, finite.injEq]
        omega
      · rw [packed]
        simp
    · rw [packed]
      refine iff_of_true ?_ rfl
      rcases pack_cases (by omega : 2 ^ 52 ≤ q + 1) (by omega) least false with
        ⟨canonical, _⟩ | ⟨_, packed⟩
      · have within := canonical.2.2.1
        omega
      · exact packed.symm
  · next kept =>
    refine iff_of_true rfl ?_
    by_cases none : t = 0
    · exact Or.inl none
    · exact Or.inr (Or.inl fun tie => kept ⟨none, tie⟩)

end DocumentQuery.Binary64
