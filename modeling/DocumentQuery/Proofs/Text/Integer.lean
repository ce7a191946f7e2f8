import DocumentQuery.Proofs.Text.Blank
import DocumentQuery.Proofs.Text.Decimal
import Mathlib.Data.List.Basic

/-!
Whole numbers with a sign.

`SpellsInteger` says without the reader which texts are whole numbers: decimal digits, a plus or a minus
sign in front or none, and any blanks around. These are the texts that are read after trimming
(`readInteger?_trim_eq_some_iff`), so a text spells one number at most. A written number spells itself.
-/

namespace DocumentQuery.Text

/-! ## The grammar -/

/-- Whether a text is the decimal digits of a number, with a sign in front or without. -/
inductive WritesInteger : List Char → Int → Prop
  | plain {digits : List Char} (nonempty : digits ≠ []) (all : ∀ c ∈ digits, c.isDigit = true) :
      WritesInteger digits (digitsValue digits)
  | plus {digits : List Char} (nonempty : digits ≠ []) (all : ∀ c ∈ digits, c.isDigit = true) :
      WritesInteger ('+' :: digits) (digitsValue digits)
  | minus {digits : List Char} (nonempty : digits ≠ []) (all : ∀ c ∈ digits, c.isDigit = true) :
      WritesInteger ('-' :: digits) (-digitsValue digits)

/-- Whether a text is the decimal digits of a number, with a sign or without, and with any blanks
around. -/
def SpellsInteger (text : List Char) (n : Int) : Prop :=
  ∃ before numeral after, text = before ++ (numeral ++ after) ∧
    (∀ c ∈ before, isBlank c = true) ∧ WritesInteger numeral n ∧ ∀ c ∈ after, isBlank c = true

theorem WritesInteger.exists_digit {numeral : List Char} {n : Int} (writes : WritesInteger numeral n) :
    ∃ c ∈ numeral, c.isDigit = true := by
  cases writes with
  | plain nonempty all =>
    obtain ⟨c, digits, rfl⟩ := List.exists_cons_of_ne_nil nonempty
    exact ⟨c, List.mem_cons_self, all c List.mem_cons_self⟩
  | plus nonempty all =>
    obtain ⟨c, digits, rfl⟩ := List.exists_cons_of_ne_nil nonempty
    exact ⟨c, List.mem_cons_of_mem '+' List.mem_cons_self, all c List.mem_cons_self⟩
  | minus nonempty all =>
    obtain ⟨c, digits, rfl⟩ := List.exists_cons_of_ne_nil nonempty
    exact ⟨c, List.mem_cons_of_mem '-' List.mem_cons_self, all c List.mem_cons_self⟩

theorem WritesInteger.sign_or_digit {numeral : List Char} {n : Int} (writes : WritesInteger numeral n) :
    ∀ c ∈ numeral, c = '+' ∨ c = '-' ∨ c.isDigit = true := by
  cases writes with
  | plain _ all => exact fun c member => Or.inr (Or.inr (all c member))
  | plus _ all =>
    exact List.forall_mem_cons.mpr ⟨Or.inl rfl, fun c member => Or.inr (Or.inr (all c member))⟩
  | minus _ all =>
    exact List.forall_mem_cons.mpr ⟨Or.inr (Or.inl rfl), fun c member => Or.inr (Or.inr (all c member))⟩

theorem WritesInteger.no_blank {numeral : List Char} {n : Int} (writes : WritesInteger numeral n) :
    ∀ c ∈ numeral, isBlank c = false := by
  intro c member
  rcases writes.sign_or_digit c member with rfl | rfl | digit
  · decide
  · decide
  · exact isBlank_of_isDigit digit

/-! ## Reading -/

theorem readInteger?_eq_some_iff {text : List Char} {n : Int} :
    readInteger? text = some n ↔ WritesInteger text n := by
  constructor
  · intro read
    unfold readInteger? readNatural? at read
    split at read
    · split at read
      · next digits isDigits =>
        obtain ⟨nonempty, all⟩ := isDigits_iff.mp isDigits
        obtain rfl := Option.some.inj read
        exact .minus nonempty all
      · cases read
    · obtain ⟨value, natural, rfl⟩ := Option.map_eq_some_iff.mp read
      simp only at natural
      split at natural <;> split at natural
      · next isDigits =>
        obtain ⟨nonempty, all⟩ := isDigits_iff.mp isDigits
        obtain rfl := Option.some.inj natural
        exact .plus nonempty all
      · cases natural
      · next isDigits =>
        obtain ⟨nonempty, all⟩ := isDigits_iff.mp isDigits
        obtain rfl := Option.some.inj natural
        exact .plain nonempty all
      · cases natural
  · intro writes
    cases writes with
    | plain nonempty all =>
      have isDigits := isDigits_iff.mpr ⟨nonempty, all⟩
      obtain ⟨c, rest, rfl⟩ := List.exists_cons_of_ne_nil nonempty
      have first := all c List.mem_cons_self
      have minus : c ≠ '-' := by
        rintro rfl
        cases first
      have plus : c ≠ '+' := by
        rintro rfl
        cases first
      unfold readInteger? readNatural?
      split
      · next same => exact absurd (List.cons.inj same).1 minus
      · split
        · next same => exact absurd (List.cons.inj same).1 plus
        · simp only [isDigits, if_true, Option.map_some, Int.ofNat_eq_natCast]
    | @plus digits nonempty all =>
      have natural : readNatural? ('+' :: digits) = some (digitsValue digits) :=
        if_pos (isDigits_iff.mpr ⟨nonempty, all⟩)
      show (readNatural? ('+' :: digits)).map Int.ofNat = _
      rw [natural]
      rfl
    | minus nonempty all => exact if_pos (isDigits_iff.mpr ⟨nonempty, all⟩)

/-- A text spells a number exactly when that is read in it without the blanks around. -/
theorem readInteger?_trim_eq_some_iff {text : List Char} {n : Int} :
    readInteger? (trim text) = some n ↔ SpellsInteger text n := by
  rw [readInteger?_eq_some_iff]
  constructor
  · intro writes
    obtain ⟨before, after, whole, front, back⟩ := exists_trim text
    exact ⟨before, trim text, after, whole, front, writes, back⟩
  · rintro ⟨before, numeral, after, rfl, front, writes, back⟩
    rwa [trim_append front back, trim_of_no_blank writes.no_blank]

theorem SpellsInteger.unique {text : List Char} {m n : Int} (first : SpellsInteger text m)
    (second : SpellsInteger text n) : m = n := by
  rw [← readInteger?_trim_eq_some_iff] at first second
  exact Option.some.inj (first.symm.trans second)

/-! ## Characters of a number -/

theorem SpellsInteger.exists_digit {text : List Char} {n : Int} (spells : SpellsInteger text n) :
    ∃ c ∈ text, c.isDigit = true := by
  obtain ⟨before, numeral, after, rfl, _, writes, _⟩ := spells
  obtain ⟨c, member, digit⟩ := writes.exists_digit
  exact ⟨c, List.mem_append_right before (List.mem_append_left after member), digit⟩

theorem SpellsInteger.blank_or_sign_or_digit {text : List Char} {n : Int}
    (spells : SpellsInteger text n) :
    ∀ c ∈ text, isBlank c = true ∨ c = '+' ∨ c = '-' ∨ c.isDigit = true := by
  obtain ⟨before, numeral, after, rfl, front, writes, back⟩ := spells
  intro c member
  rcases List.mem_append.mp member with inFront | inside
  · exact Or.inl (front c inFront)
  · rcases List.mem_append.mp inside with written | behind
    · exact Or.inr (writes.sign_or_digit c written)
    · exact Or.inl (back c behind)

/-- Nothing but blanks stands before a hyphen. -/
theorem SpellsInteger.blank_before_hyphen {front rest : List Char} {n : Int}
    (spells : SpellsInteger (front ++ '-' :: rest) n) : ∀ c ∈ front, isBlank c = true := by
  obtain ⟨before, numeral, after, parts, blanks, writes, back⟩ := spells
  have notBlank : ∀ text : List Char, (∀ c ∈ text, isBlank c = true) → '-' ∉ text := by
    intro text all member
    have blank := all '-' member
    revert blank
    decide
  have notDigit : ∀ digits : List Char, (∀ c ∈ digits, c.isDigit = true) → '-' ∉ digits := by
    intro digits all member
    cases all '-' member
  have hyphen : '-' ∈ before ++ (numeral ++ after) := by
    rw [← parts]
    exact List.mem_append_right front List.mem_cons_self
  simp only [List.mem_append, notBlank before blanks, notBlank after back, false_or, or_false] at hyphen
  cases writes with
  | plain _ all => exact absurd hyphen (notDigit _ all)
  | plus _ all =>
    rcases List.mem_cons.mp hyphen with same | member
    · cases same
    · exact absurd member (notDigit _ all)
  | @minus digits _ all =>
    have behind : '-' ∉ digits ++ after := by
      rw [List.mem_append, not_or]
      exact ⟨notDigit digits all, notBlank after back⟩
    have same := (List.append_cons_inj_of_notMem (notBlank before blanks) behind).mp parts.symm
    rw [← same.1]
    exact blanks

/-! ## Written numbers -/

theorem writesInteger_integer (n : Int) : WritesInteger (integer n) n := by
  have digits : ∀ c ∈ natural n.natAbs, c.isDigit = true := fun _ => isDigit_of_mem_natural
  have nonempty : natural n.natAbs ≠ [] := Nat.toDigits_ne_nil
  have value := digitsValue_natural n.natAbs
  unfold integer
  split
  · next negative =>
    have writes := WritesInteger.minus nonempty digits
    rwa [value, show -(n.natAbs : Int) = n by omega] at writes
  · next positive =>
    have writes := WritesInteger.plain nonempty digits
    rwa [value, show (n.natAbs : Int) = n by omega] at writes

theorem spellsInteger_integer (n : Int) : SpellsInteger (integer n) n :=
  ⟨[], integer n, [], by simp, List.forall_mem_nil _, writesInteger_integer n, List.forall_mem_nil _⟩

theorem ofList_integer (n : Int) : String.ofList (integer n) = toString n := by
  cases n with
  | ofNat n =>
    rw [integer, Int.ofNat_eq_natCast, if_neg (Int.not_lt.mpr (Int.natCast_nonneg n))]
    rfl
  | negSucc n =>
    rw [integer, if_pos (Int.negSucc_lt_zero n), ← String.toList_inj]
    simp [natural, toString, Int.repr, Nat.repr]

end DocumentQuery.Text
