import DocumentQuery.Pagination.Numeral
import DocumentQuery.Proofs.Binary64.Arithmetic
import DocumentQuery.Proofs.Correspondence
import DocumentQuery.Proofs.Text.Blank
import Mathlib.Data.Nat.Log

/-!
Whole numbers in hexadecimal, octal and binary.

A number of more than 53 bits is rounded when its digits are read, and the digits that come after are
lost. So a text is not read as the number that its digits denote, but as the number with zeros for the
lost digits, rounded once (`Radix.radixValue_eq`). This makes a difference exactly in a tie
(`Radix.ofNat_kept_eq_iff`).
-/

namespace DocumentQuery.Numeral

/-! ## Digits -/

/-- A radix that a whole number announces. -/
inductive Radix
  | hexadecimal
  | octal
  | binary

namespace Radix

/-- The bits in one digit. -/
def bits : Radix → Nat
  | hexadecimal => 4
  | octal => 3
  | binary => 1

/-- The number of digits there are. -/
def base (radix : Radix) : Nat :=
  2 ^ radix.bits

/-- The letters that announce the radix after a zero. -/
def marks : Radix → List Char
  | hexadecimal => ['x', 'X']
  | octal => ['o', 'O']
  | binary => ['b', 'B']

/-- Whether `c` is the digit of a value, as a small or as a capital letter. -/
def IsDigit (radix : Radix) (c : Char) (value : Nat) : Prop :=
  value < radix.base ∧ c.toLower = Nat.digitChar value

instance (radix : Radix) (c : Char) (value : Nat) : Decidable (radix.IsDigit c value) :=
  inferInstanceAs (Decidable (_ ∧ _))

/-- Whether a text is a zero, a letter that announces the radix, and the digits of `n`, with any number
of leading zeros. -/
def Spells (radix : Radix) (text : List Char) (n : Nat) : Prop :=
  ∃ mark ∈ radix.marks, ∃ digits zeros, text = '0' :: mark :: digits ∧
    digits.map Char.toLower = List.replicate zeros '0' ++ Nat.toDigits radix.base n

variable (radix : Radix)

theorem one_lt_base : 1 < radix.base := by
  cases radix <;> decide

theorem digitOfRadix?_toLower (c : Char) :
    Text.digitOfRadix? radix.base c.toLower = Text.digitOfRadix? radix.base c := by
  have letters : ∀ k < 26, Text.digitOfRadix? radix.base (Char.ofNat (65 + k)).toLower =
      Text.digitOfRadix? radix.base (Char.ofNat (65 + k)) := by
    cases radix <;> decide
  rcases Text.toLower_cases c with same | ⟨k, small, rfl⟩
  · rw [same]
  · exact letters k small

/-- Digits are among the first 128 characters. -/
theorem toNat_lt_of_digitOfRadix? {c : Char} {value : Nat}
    (digit : Text.digitOfRadix? radix.base c = some value) : c.toNat < 128 := by
  obtain ⟨found, _⟩ := Option.filter_eq_some_iff.mp digit
  have last : '9'.toNat = 57 ∧ 'f'.toNat = 102 ∧ 'F'.toNat = 70 := by decide
  split at found
  · next isDigit =>
    simp only [Char.isDigit, Bool.and_eq_true, decide_eq_true_eq, UInt32.le_iff_toNat_le] at isDigit
    have : c.toNat ≤ 57 := isDigit.2
    omega
  · split at found
    · next letter =>
      have : c.toNat ≤ 'f'.toNat := letter.2
      omega
    · split at found
      · next letter =>
        have : c.toNat ≤ 'F'.toNat := letter.2
        omega
      · cases found

theorem digitOfRadix?_eq_some_iff {c : Char} {value : Nat} :
    Text.digitOfRadix? radix.base c = some value ↔ radix.IsDigit c value := by
  constructor
  · intro digit
    have ascii := toNat_lt_of_digitOfRadix? radix digit
    have table : ∀ n < 128, (Text.digitOfRadix? radix.base (Char.ofNat n)).all fun value =>
        value < radix.base ∧ (Char.ofNat n).toLower = Nat.digitChar value := by
      cases radix <;> decide +kernel
    have entry := table c.toNat ascii
    rw [Char.ofNat_toNat, digit] at entry
    exact of_decide_eq_true entry
  · rintro ⟨small, lower⟩
    have digits : ∀ value < radix.base,
        Text.digitOfRadix? radix.base (Nat.digitChar value) = some value := by
      cases radix <;> decide
    rw [← digitOfRadix?_toLower, lower, digits value small]

theorem isDigit_toLower {c : Char} {value : Nat} :
    radix.IsDigit c.toLower value ↔ radix.IsDigit c value := by
  rw [← digitOfRadix?_eq_some_iff, digitOfRadix?_toLower, digitOfRadix?_eq_some_iff]

/-! ## The number that digits denote -/

/-- The number that digits denote, the first of them with the greatest weight. -/
def number (values : List Nat) : Nat :=
  values.foldl (fun n value => n * radix.base + value) 0

/-- Whether characters are digits that denote `n`. -/
def Denotes (digits : List Char) (n : Nat) : Prop :=
  ∃ values, List.Forall₂ radix.IsDigit digits values ∧ radix.number values = n

variable {radix} {digits : List Char} {n : Nat}

theorem Denotes.append_digit (front : radix.Denotes digits n) {c : Char} {value : Nat}
    (digit : radix.IsDigit c value) : radix.Denotes (digits ++ [c]) (n * radix.base + value) := by
  obtain ⟨values, all, rfl⟩ := front
  refine ⟨values ++ [value], List.rel_append all (.cons digit .nil), ?_⟩
  rw [number, number, List.foldl_append]
  rfl

theorem isDigit_digitChar {value : Nat} (small : value < radix.base) :
    radix.IsDigit (Nat.digitChar value) value := by
  have digits : ∀ value < radix.base, radix.IsDigit (Nat.digitChar value) value := by
    cases radix <;> decide
  exact digits value small

theorem denotes_zeros (zeros : Nat) : radix.Denotes (List.replicate zeros '0') 0 := by
  induction zeros with
  | zero => exact ⟨[], .nil, rfl⟩
  | succ zeros ih =>
    have zero : radix.IsDigit '0' 0 := isDigit_digitChar (Nat.zero_lt_of_lt radix.one_lt_base)
    have next := ih.append_digit zero
    rwa [Nat.zero_mul, ← List.replicate_succ'] at next

/-- The digits of a number denote it, also after leading zeros. -/
theorem denotes_toDigits (zeros n : Nat) :
    radix.Denotes (List.replicate zeros '0' ++ Nat.toDigits radix.base n) n := by
  induction n using Nat.strongRecOn with
  | ind n ih =>
    have base := radix.one_lt_base
    by_cases single : n < radix.base
    · have next := (denotes_zeros zeros).append_digit (isDigit_digitChar single)
      rwa [Nat.zero_mul, Nat.zero_add, ← Nat.toDigits_of_lt_base single] at next
    · have several : radix.base ≤ n := Nat.not_lt.mp single
      have small := Nat.mod_lt n (Nat.zero_lt_of_lt base)
      have front := ih (n / radix.base) (Nat.div_lt_self (by omega) base)
      have next := front.append_digit (isDigit_digitChar small)
      rwa [List.append_assoc, ← Nat.toDigits_of_base_le base several, Nat.div_add_mod'] at next

theorem denotes_map_toLower : radix.Denotes (digits.map Char.toLower) n ↔ radix.Denotes digits n := by
  unfold Denotes
  simp only [List.forall₂_map_left_iff, isDigit_toLower]

/-! ## Digits that are lost -/

/-- How many digits of `n` stand behind the one with which it reaches `2 ^ 53`. -/
def lostDigits (radix : Radix) (n : Nat) : Nat :=
  Nat.log radix.base (n / 2 ^ 53)

/-- `n` with zeros for the digits behind the one with which it reaches `2 ^ 53`. -/
def kept (radix : Radix) (n : Nat) : Nat :=
  n / radix.base ^ radix.lostDigits n * radix.base ^ radix.lostDigits n

theorem kept_of_lt (below : n < 2 ^ 53 * radix.base) : radix.kept n = n := by
  have none : radix.lostDigits n = 0 :=
    Nat.log_of_lt ((Nat.div_lt_iff_lt_mul (by decide)).mpr (by omega))
  rw [kept, none, Nat.pow_zero, Nat.div_one, Nat.mul_one]

/-- The next digit is lost when `2 ^ 53` has been reached. -/
theorem kept_append_digit (reached : 2 ^ 53 ≤ n) {value : Nat} (digit : value < radix.base) :
    radix.kept (n * radix.base + value) = radix.kept n * radix.base := by
  have base := radix.one_lt_base
  have front : (n * radix.base + value) / radix.base = n := by
    rw [Nat.mul_comm, Nat.mul_add_div (by omega), Nat.div_eq_of_lt digit, Nat.add_zero]
  have lost : radix.lostDigits (n * radix.base + value) = radix.lostDigits n + 1 := by
    unfold lostDigits
    have large : radix.base ≤ (n * radix.base + value) / 2 ^ 53 := by
      rw [Nat.le_div_iff_mul_le (by decide)]
      have := Nat.mul_le_mul_right radix.base reached
      omega
    rw [Nat.log_of_one_lt_of_le base large, Nat.div_div_eq_div_mul, Nat.mul_comm (2 ^ 53),
      ← Nat.div_div_eq_div_mul, front]
  rw [kept, lost, Nat.pow_succ', ← Nat.div_div_eq_div_mul, front, kept]
  ring

/-- The digits that are kept reach `2 ^ 53`. -/
theorem two_pow_le_div (reached : 2 ^ 53 ≤ n) : 2 ^ 53 ≤ n / radix.base ^ radix.lostDigits n := by
  have quotient : n / 2 ^ 53 ≠ 0 := (Nat.div_pos reached (by decide)).ne'
  have lost : radix.base ^ radix.lostDigits n ≤ n / 2 ^ 53 := Nat.pow_log_le_self _ quotient
  have positive : 0 < radix.base ^ radix.lostDigits n := Nat.pow_pos (Nat.zero_lt_of_lt radix.one_lt_base)
  rw [Nat.le_div_iff_mul_le positive, Nat.mul_comm]
  exact (Nat.le_div_iff_mul_le (by decide)).mp lost

theorem two_pow_le_kept (reached : 2 ^ 53 ≤ n) : 2 ^ 53 ≤ radix.kept n :=
  (two_pow_le_div reached).trans
    (Nat.le_mul_of_pos_right _ (Nat.pow_pos (Nat.zero_lt_of_lt radix.one_lt_base)))

/-! ## Reading -/

/-- One more digit, read into the number that the digits so far have given. -/
theorem ofNat_kept_step (n : Nat) {value : Nat} (digit : value < radix.base) :
    ((Binary64.ofNat (radix.kept n)).mul (.ofNat radix.base)).add (.ofNat value) =
      .ofNat (radix.kept (n * radix.base + value)) := by
  have few : radix.bits ≤ 53 := by
    cases radix <;> decide
  have base : radix.base ≤ 2 ^ 53 := Nat.pow_le_pow_right (by decide) few
  by_cases reached : 2 ^ 53 ≤ n
  · rw [kept_append_digit reached digit]
    exact Binary64.mul_two_pow_add_digit (two_pow_le_kept reached) few digit
  · have below : n < 2 ^ 53 * radix.base := by
      have := Nat.le_mul_of_pos_right (2 ^ 53) (Nat.zero_lt_of_lt radix.one_lt_base)
      omega
    have next : n * radix.base + value < 2 ^ 53 * radix.base := by
      have := Nat.mul_le_mul_right radix.base (Nat.succ_le_of_lt (Nat.not_le.mp reached))
      rw [Nat.succ_mul] at this
      omega
    have exact : Binary64.Representable (n * radix.base : Nat) := by
      have product : ((n * radix.base : Nat) : ℚ) = n * 2 ^ radix.bits := by
        unfold Radix.base
        push_cast
        rfl
      rw [product]
      exact Binary64.representable_mul_two_pow (by omega) (by omega)
    rw [kept_of_lt below, kept_of_lt next, Binary64.ofNat_mul_ofNat (by omega) base,
      Binary64.add_ofNat exact (by omega)]

/-- Digits are read as the number they denote with zeros for the lost ones, rounded once. -/
theorem radixValue_eq (values : List Nat) (digits : ∀ value ∈ values, value < radix.base) :
    radixValue radix.base values = .ofNat (radix.kept (radix.number values)) := by
  induction values using List.reverseRecOn with
  | nil =>
    have nothing : radix.number [] < 2 ^ 53 * radix.base := by
      cases radix <;> decide
    rw [kept_of_lt nothing]
    exact (Binary64.ofRatio_zero false 1).symm
  | append_singleton values value ih =>
    have front := ih fun other member => digits other (List.mem_append_left _ member)
    have last := digits value (List.mem_append_right _ List.mem_cons_self)
    unfold radixValue number at *
    rw [List.foldl_append, List.foldl_append, List.foldl_cons, List.foldl_nil, List.foldl_cons,
      List.foldl_nil, front, ofNat_kept_step _ last]

theorem mapM_digitOfRadix? {values : List Nat} :
    digits.mapM (Text.digitOfRadix? radix.base) = some values ↔
      List.Forall₂ radix.IsDigit digits values := by
  rw [mapM_eq_some_iff]
  simp only [digitOfRadix?_eq_some_iff]

theorem lt_base_of_forall₂ {values : List Nat} (all : List.Forall₂ radix.IsDigit digits values) :
    ∀ value ∈ values, value < radix.base := by
  induction all with
  | nil => exact List.forall_mem_nil _
  | cons digit _ ih => exact List.forall_mem_cons.mpr ⟨digit.1, ih⟩

theorem ofRadix_of_denotes (nonempty : digits ≠ []) (denotes : radix.Denotes digits n) :
    ofRadix radix.base digits = .ofNat (radix.kept n) := by
  obtain ⟨values, all, rfl⟩ := denotes
  have read := radixValue_eq values (lt_base_of_forall₂ all)
  unfold ofRadix
  rw [mapM_digitOfRadix?.mpr all]
  cases all with
  | nil => exact absurd rfl nonempty
  | cons digit rest => exact read

/-! ## When the lost digits matter -/

/-- Whether the lost digits of `n` decide a tie: with zeros for them, `n` lies half way between two
binary64 numbers and goes down to the lower one. -/
def LosesTie (radix : Radix) (n : Nat) : Prop :=
  radix.kept n ≠ n ∧ Binary64.TiesDown (radix.kept n) ∧ Binary64.ofNat (radix.kept n) ≠ .infinite false

instance (radix : Radix) (n : Nat) : Decidable (radix.LosesTie n) :=
  inferInstanceAs (Decidable (_ ∧ _ ∧ _))

theorem not_losesTie_iff : ¬ radix.LosesTie n ↔ radix.kept n = n ∨
    ¬ Binary64.TiesDown (radix.kept n) ∨ Binary64.ofNat (radix.kept n) = .infinite false := by
  rw [LosesTie, not_and_or, not_and_or, ne_eq, ne_eq, not_not, not_not]

/-- The lost digits change what a number is rounded to exactly when they decide a tie. -/
theorem ofNat_kept_eq_iff (n : Nat) :
    Binary64.ofNat (radix.kept n) = .ofNat n ↔ ¬ radix.LosesTie n := by
  rw [not_losesTie_iff]
  by_cases reached : 2 ^ 53 ≤ n
  · have power : radix.base ^ radix.lostDigits n = 2 ^ (radix.bits * radix.lostDigits n) :=
      (Nat.pow_mul ..).symm
    have small := Nat.mod_lt n (Nat.two_pow_pos (radix.bits * radix.lostDigits n))
    have bits : 2 ^ 53 ≤ n / radix.base ^ radix.lostDigits n := two_pow_le_div reached
    have parts := Nat.div_add_mod' n (2 ^ (radix.bits * radix.lostDigits n))
    have lost := Binary64.ofNat_append_eq_iff (power ▸ bits) small
    have nothing : n / 2 ^ (radix.bits * radix.lostDigits n) * 2 ^ (radix.bits * radix.lostDigits n) = n ↔
        n % 2 ^ (radix.bits * radix.lostDigits n) = 0 := by
      omega
    rw [parts] at lost
    rw [kept, power, lost, nothing]
  · have below : n < 2 ^ 53 * radix.base := by
      have := Nat.le_mul_of_pos_right (2 ^ 53) (Nat.zero_lt_of_lt radix.one_lt_base)
      omega
    rw [kept_of_lt below]
    exact iff_of_true rfl (Or.inl rfl)

end Radix

end DocumentQuery.Numeral
