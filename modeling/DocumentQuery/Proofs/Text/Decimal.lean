import DocumentQuery.Text.Decimal

/-!
Digits, and numbers of a fixed width.

`takeNumber?_eq_some_iff` says what a reader of a fixed number of digits accepts. As many digits with
the same value are the same digits (`digitsValue_inj`), so the reader takes a number from the one text
that is written for it with leading zeros (`takeNumber?_eq_some_iff_padded`).
-/

namespace DocumentQuery.Text

/-! ## Digits -/

theorem isDigits_iff {text : List Char} :
    isDigits text = true ↔ text ≠ [] ∧ ∀ c ∈ text, c.isDigit = true := by
  simp [isDigits]

theorem exists_cons_of_isDigits {text : List Char} (digits : isDigits text = true) :
    ∃ c rest, text = c :: rest ∧ c.isDigit = true := by
  obtain ⟨nonempty, all⟩ := isDigits_iff.mp digits
  obtain ⟨c, rest, rfl⟩ := List.exists_cons_of_ne_nil nonempty
  exact ⟨c, rest, rfl, all c List.mem_cons_self⟩

theorem isDigits_of_mem {c : Char} {text : List Char} (notDigit : c.isDigit = false)
    (member : c ∈ text) : isDigits text = false := by
  unfold isDigits
  have some : text.all Char.isDigit = false := by
    rw [List.all_eq_false]
    exact ⟨c, member, by rw [notDigit]; decide⟩
  rw [some, Bool.and_false]

/-- What stands behind the first digits of a text. -/
theorem dropWhile_digits {digits : List Char} (all : ∀ c ∈ digits, c.isDigit = true) {c : Char}
    (notDigit : c.isDigit = false) (rest : List Char) :
    (digits ++ c :: rest).dropWhile Char.isDigit = c :: rest := by
  rw [List.dropWhile_append_of_pos all, List.dropWhile_cons_of_neg (by rw [notDigit]; decide)]

/-! ## The value of digits -/

theorem digitsValue_cons (c : Char) (digits : List Char) :
    digitsValue (c :: digits) = 10 ^ digits.length * (c.toNat - '0'.toNat) + digitsValue digits := by
  unfold digitsValue
  rw [Nat.ofDigitChars_cons, Nat.ofDigitChars_eq_ofDigitChars_zero, Nat.mul_zero, Nat.zero_add]

theorem toNat_sub_lt_ten {c : Char} (digit : c.isDigit = true) : c.toNat - '0'.toNat < 10 := by
  simp only [Char.isDigit, Bool.and_eq_true, decide_eq_true_eq, ge_iff_le,
    UInt32.le_iff_toNat_le] at digit
  have high : c.toNat ≤ 57 := digit.2
  have zero : '0'.toNat = 48 := rfl
  omega

theorem digitsValue_lt {digits : List Char} (all : ∀ c ∈ digits, c.isDigit = true) :
    digitsValue digits < 10 ^ digits.length := by
  induction digits with
  | nil => exact Nat.one_pos
  | cons c digits ih =>
    have first := toNat_sub_lt_ten (all c List.mem_cons_self)
    have rest := ih fun d member => all d (List.mem_cons_of_mem c member)
    calc digitsValue (c :: digits)
        = 10 ^ digits.length * (c.toNat - '0'.toNat) + digitsValue digits := digitsValue_cons c digits
      _ < 10 ^ digits.length * (c.toNat - '0'.toNat) + 10 ^ digits.length := by omega
      _ = 10 ^ digits.length * (c.toNat - '0'.toNat + 1) := by rw [Nat.mul_add, Nat.mul_one]
      _ ≤ 10 ^ digits.length * 10 := Nat.mul_le_mul_left _ first
      _ = 10 ^ (c :: digits).length := by rw [List.length_cons, Nat.pow_succ]

theorem digitsValue_append (left right : List Char) :
    digitsValue (left ++ right) = 10 ^ right.length * digitsValue left + digitsValue right := by
  unfold digitsValue
  rw [Nat.ofDigitChars_append, Nat.ofDigitChars_eq_ofDigitChars_zero]

theorem eq_of_toNat_sub_eq {c d : Char} (left : c.isDigit = true) (right : d.isDigit = true)
    (same : c.toNat - '0'.toNat = d.toNat - '0'.toNat) : c = d := by
  simp only [Char.isDigit, Bool.and_eq_true, decide_eq_true_eq, ge_iff_le,
    UInt32.le_iff_toNat_le] at left right
  have low : 48 ≤ c.toNat := left.1
  have low' : 48 ≤ d.toNat := right.1
  have zero : '0'.toNat = 48 := rfl
  exact Char.toNat_inj.mp (by omega)

/-- As many digits with the same value are the same digits. -/
theorem digitsValue_inj {left right : List Char} (leftDigits : ∀ c ∈ left, c.isDigit = true)
    (rightDigits : ∀ c ∈ right, c.isDigit = true) (length : left.length = right.length)
    (value : digitsValue left = digitsValue right) : left = right := by
  induction left generalizing right with
  | nil => exact (List.eq_nil_of_length_eq_zero length.symm).symm
  | cons c left ih =>
    cases right with
    | nil => cases length
    | cons d right =>
      rw [List.forall_mem_cons] at leftDigits rightDigits
      have tails : left.length = right.length := Nat.succ.inj length
      have positive : 0 < 10 ^ right.length := Nat.pow_pos (by decide)
      have small := digitsValue_lt leftDigits.2
      have small' := digitsValue_lt rightDigits.2
      rw [digitsValue_cons, digitsValue_cons, tails] at value
      rw [tails] at small
      -- The first digit is the quotient by the weight of its place, the others are the remainder.
      have first := congrArg (· / 10 ^ right.length) value
      have rest := congrArg (· % 10 ^ right.length) value
      simp only [Nat.mul_add_div positive, Nat.mul_add_mod, Nat.div_eq_of_lt small,
        Nat.div_eq_of_lt small', Nat.mod_eq_of_lt small, Nat.mod_eq_of_lt small',
        Nat.add_zero] at first rest
      rw [eq_of_toNat_sub_eq leftDigits.1 rightDigits.1 first, ih leftDigits.2 rightDigits.2 tails rest]

/-! ## Leading zeros -/

theorem isDigit_of_mem_zeros_natural {zeros n : Nat} {c : Char}
    (member : c ∈ List.replicate zeros '0' ++ natural n) : c.isDigit = true := by
  rcases List.mem_append.mp member with zero | digit
  · rw [List.eq_of_mem_replicate zero]
    rfl
  · exact isDigit_of_mem_natural digit

theorem digitsValue_zeros_natural (zeros n : Nat) :
    digitsValue (List.replicate zeros '0' ++ natural n) = n := by
  unfold digitsValue
  rw [Nat.ofDigitChars_append, Nat.ofDigitChars_replicate_zero, Nat.mul_zero]
  exact digitsValue_natural n

theorem isDigit_of_mem_padded {width n : Nat} {c : Char} (member : c ∈ padded width n) :
    c.isDigit = true :=
  isDigit_of_mem_zeros_natural member

theorem length_padded {width n : Nat} (positive : 0 < width) (fits : n < 10 ^ width) :
    (padded width n).length = width := by
  have short : (natural n).length ≤ width :=
    (Nat.length_toDigits_le_iff (by decide) positive).mpr fits
  unfold padded
  rw [List.length_append, List.length_replicate]
  omega

theorem digitsValue_padded (width n : Nat) : digitsValue (padded width n) = n :=
  digitsValue_zeros_natural _ n

/-- A written number has no leading zero unless it is zero. -/
theorem natural_ne_zero_cons (n : Nat) (c : Char) (digits : List Char) :
    natural n ≠ '0' :: c :: digits := by
  intro leading
  have all : ∀ d ∈ c :: digits, d.isDigit = true := by
    intro d member
    have inside : d ∈ natural n := by
      rw [leading]
      exact List.mem_cons_of_mem '0' member
    exact isDigit_of_mem_natural inside
  have value : n = digitsValue (c :: digits) := by
    have written := digitsValue_natural n
    rw [leading, digitsValue_cons, Nat.sub_self, Nat.mul_zero, Nat.zero_add] at written
    exact written.symm
  have small : n < 10 ^ (c :: digits).length := by
    rw [value]
    exact digitsValue_lt all
  have short : (natural n).length ≤ (c :: digits).length :=
    (Nat.length_toDigits_le_iff (by decide) (Nat.succ_pos _)).mpr small
  rw [leading, List.length_cons] at short
  omega

theorem natural_eq_cons (n : Nat) :
    ∃ c digits, natural n = c :: digits ∧ c.isDigit = true := by
  cases written : natural n with
  | nil =>
    have nonempty := isDigits_natural n
    rw [written] at nonempty
    cases nonempty
  | cons c digits =>
    have inside : c ∈ natural n := by
      rw [written]
      exact List.mem_cons_self
    exact ⟨c, digits, rfl, isDigit_of_mem_natural inside⟩

/-! ## Reading -/

theorem takeNumber?_eq_some_iff {width n : Nat} {text rest : List Char} :
    takeNumber? width text = some (n, rest) ↔
      ∃ digits, digits.length = width ∧ (∀ c ∈ digits, c.isDigit = true) ∧
        text = digits ++ rest ∧ n = digitsValue digits := by
  simp only [takeNumber?]
  constructor
  · intro taken
    split at taken
    · next accepted =>
      rw [Bool.and_eq_true, decide_eq_true_eq, List.all_eq_true] at accepted
      simp only [Option.some.injEq, Prod.mk.injEq] at taken
      obtain ⟨rfl, rfl⟩ := taken
      exact ⟨text.take width, accepted.1, accepted.2, (List.take_append_drop width text).symm, rfl⟩
    · cases taken
  · rintro ⟨digits, rfl, all, rfl, rfl⟩
    have allDigits : digits.all Char.isDigit = true := List.all_eq_true.mpr all
    simp only [List.take_left, List.drop_left, allDigits, decide_true, Bool.and_self, if_true]

/-- A number with leading zeros is read back, whatever comes after it. -/
theorem takeNumber?_padded {width n : Nat} (positive : 0 < width) (fits : n < 10 ^ width)
    (rest : List Char) : takeNumber? width (padded width n ++ rest) = some (n, rest) :=
  takeNumber?_eq_some_iff.mpr ⟨padded width n, length_padded positive fits,
    fun _ => isDigit_of_mem_padded, rfl, (digitsValue_padded width n).symm⟩

/-- A number of a fixed width is read from the one text that is written for it. -/
theorem takeNumber?_eq_some_iff_padded {width n : Nat} {text rest : List Char}
    (positive : 0 < width) :
    takeNumber? width text = some (n, rest) ↔ n < 10 ^ width ∧ text = padded width n ++ rest := by
  constructor
  · intro taken
    obtain ⟨digits, rfl, all, rfl, rfl⟩ := takeNumber?_eq_some_iff.mp taken
    have fits := digitsValue_lt all
    have written : digits = padded digits.length (digitsValue digits) :=
      digitsValue_inj all (fun _ => isDigit_of_mem_padded) (length_padded positive fits).symm
        (digitsValue_padded _ _).symm
    exact ⟨fits, congrArg (· ++ rest) written⟩
  · rintro ⟨fits, rfl⟩
    exact takeNumber?_padded positive fits rest

end DocumentQuery.Text
