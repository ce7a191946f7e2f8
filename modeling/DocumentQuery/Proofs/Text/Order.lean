import DocumentQuery.Proofs.Text.Decimal

/-!
The order of texts.

Texts are compared character by character, and where all characters are of ASCII this is the same as
comparing the bytes of their UTF-8 forms (`bytes_lt_bytes_iff`). Numbers that are written with equally
many digits are ordered like their texts, and what stands behind them decides only where the numbers
are the same (`padded_cons_lt_iff`).
-/

namespace DocumentQuery.Text

/-! ## Bytes -/

/-- The bytes of a text in UTF-8. -/
def bytes (text : String) : List UInt8 :=
  text.toUTF8.data.toList

/-- Whether a character has a single byte. -/
def isAscii (c : Char) : Bool :=
  c.toNat < 128

theorem isAscii_of_isDigit {c : Char} (digit : c.isDigit = true) : isAscii c = true := by
  simp only [Char.isDigit, Bool.and_eq_true, decide_eq_true_eq, ge_iff_le,
    UInt32.le_iff_toNat_le] at digit
  have nine : c.toNat ≤ 57 := digit.2
  exact decide_eq_true (by omega)

theorem bytes_ofList (text : List Char) :
    bytes (.ofList text) = text.flatMap String.utf8EncodeChar := by
  show (String.ofList text).toByteArray.data.toList = _
  rw [String.toByteArray_ofList, List.utf8Encode, List.toList_data_toByteArray]

theorem utf8EncodeChar_of_isAscii {c : Char} (ascii : isAscii c = true) :
    String.utf8EncodeChar c = [UInt8.ofNat c.toNat] := by
  have small : c.val.toNat ≤ 127 := Nat.le_of_lt_succ (of_decide_eq_true ascii)
  unfold String.utf8EncodeChar
  simp only [small, if_true]
  rfl

theorem toNat_byte {c : Char} (ascii : isAscii c = true) : (UInt8.ofNat c.toNat).toNat = c.toNat := by
  have small : c.toNat < 128 := of_decide_eq_true ascii
  rw [UInt8.toNat_ofNat']
  omega

theorem byte_lt_byte_iff {c d : Char} (left : isAscii c = true) (right : isAscii d = true) :
    UInt8.ofNat c.toNat < UInt8.ofNat d.toNat ↔ c < d := by
  rw [UInt8.lt_iff_toNat_lt, toNat_byte left, toNat_byte right]
  exact Iff.rfl

theorem byte_inj {c d : Char} (left : isAscii c = true) (right : isAscii d = true) :
    UInt8.ofNat c.toNat = UInt8.ofNat d.toNat ↔ c = d := by
  rw [← UInt8.toNat_inj, toNat_byte left, toNat_byte right]
  exact Char.toNat_inj

/-- Texts of ASCII characters are ordered like their bytes. -/
theorem bytes_lt_bytes_iff {left right : List Char} (leftAscii : ∀ c ∈ left, isAscii c = true)
    (rightAscii : ∀ c ∈ right, isAscii c = true) :
    bytes (.ofList left) < bytes (.ofList right) ↔ left < right := by
  rw [bytes_ofList, bytes_ofList]
  induction left generalizing right with
  | nil =>
    cases right with
    | nil => simp
    | cons d right =>
      rw [List.forall_mem_cons] at rightAscii
      simp [utf8EncodeChar_of_isAscii rightAscii.1]
  | cons c left ih =>
    rw [List.forall_mem_cons] at leftAscii
    rw [List.flatMap_cons, utf8EncodeChar_of_isAscii leftAscii.1]
    cases right with
    | nil => simp
    | cons d right =>
      rw [List.forall_mem_cons] at rightAscii
      rw [List.flatMap_cons, utf8EncodeChar_of_isAscii rightAscii.1, List.singleton_append,
        List.singleton_append, List.cons_lt_cons_iff, List.cons_lt_cons_iff,
        byte_lt_byte_iff leftAscii.1 rightAscii.1, byte_inj leftAscii.1 rightAscii.1,
        ih leftAscii.2 rightAscii.2]

/-! ## Numbers -/

/-- Of texts with equally long fronts, the fronts decide, and the rests where the fronts are the
same. -/
theorem append_lt_append_iff {front front' : List Char} (length : front.length = front'.length)
    (rest rest' : List Char) :
    front ++ rest < front' ++ rest' ↔ front < front' ∨ (front = front' ∧ rest < rest') := by
  induction front generalizing front' with
  | nil =>
    obtain rfl := List.eq_nil_of_length_eq_zero length.symm
    simp
  | cons c front ih =>
    cases front' with
    | nil => cases length
    | cons d front' =>
      rw [List.cons_append, List.cons_append, List.cons_lt_cons_iff, List.cons_lt_cons_iff,
        ih (Nat.succ.inj length), List.cons.injEq]
      grind

theorem toNat_digit {c : Char} (digit : c.isDigit = true) :
    c.toNat = '0'.toNat + (c.toNat - '0'.toNat) := by
  simp only [Char.isDigit, Bool.and_eq_true, decide_eq_true_eq, ge_iff_le,
    UInt32.le_iff_toNat_le] at digit
  exact (Nat.add_sub_cancel' digit.1).symm

/-- Of numbers with a remainder, the quotients decide, and the remainders where the quotients are the
same. -/
theorem mul_add_lt_mul_add_iff {unit a b m n : Nat} (left : m < unit) (right : n < unit) :
    unit * a + m < unit * b + n ↔ a < b ∨ (a = b ∧ m < n) := by
  rcases Nat.lt_trichotomy a b with less | rfl | greater
  · have far : unit * a + unit ≤ unit * b := Nat.mul_le_mul_left unit less
    omega
  · omega
  · have far : unit * b + unit ≤ unit * a := Nat.mul_le_mul_left unit greater
    omega

/-- Equally many digits are ordered like their values. -/
theorem lt_iff_digitsValue_lt {left right : List Char} (leftDigits : ∀ c ∈ left, c.isDigit = true)
    (rightDigits : ∀ c ∈ right, c.isDigit = true) (length : left.length = right.length) :
    left < right ↔ digitsValue left < digitsValue right := by
  induction left generalizing right with
  | nil =>
    obtain rfl := List.eq_nil_of_length_eq_zero length.symm
    simp
  | cons c left ih =>
    cases right with
    | nil => cases length
    | cons d right =>
      rw [List.forall_mem_cons] at leftDigits rightDigits
      have tails : left.length = right.length := Nat.succ.inj length
      have small := digitsValue_lt leftDigits.2
      have order : c < d ↔ c.toNat < d.toNat := Iff.rfl
      have same : c = d ↔ c.toNat = d.toNat := Char.toNat_inj.symm
      have first := toNat_digit leftDigits.1
      have first' := toNat_digit rightDigits.1
      rw [tails] at small
      rw [List.cons_lt_cons_iff, ih leftDigits.2 rightDigits.2 tails, digitsValue_cons,
        digitsValue_cons, tails, mul_add_lt_mul_add_iff small (digitsValue_lt rightDigits.2),
        order, same]
      omega

/-- Numbers with leading zeros and the same mark behind them are ordered like their texts, and where they
are the same, what stands behind the marks decides. -/
theorem padded_cons_lt_iff {width m n : Nat} (positive : 0 < width) (left : m < 10 ^ width)
    (right : n < 10 ^ width) (mark : Char) (rest rest' : List Char) :
    padded width m ++ mark :: rest < padded width n ++ mark :: rest' ↔
      m < n ∨ (m = n ∧ rest < rest') := by
  have length : (padded width m).length = (padded width n).length := by
    rw [length_padded positive left, length_padded positive right]
  have same : padded width m = padded width n ↔ m = n := by
    refine ⟨fun texts => ?_, congrArg (padded width)⟩
    rw [← digitsValue_padded width m, texts, digitsValue_padded]
  rw [append_lt_append_iff length, same, lt_iff_digitsValue_lt (fun _ => isDigit_of_mem_padded)
    (fun _ => isDigit_of_mem_padded) length, digitsValue_padded, digitsValue_padded,
    List.cons_lt_cons_self]

end DocumentQuery.Text
