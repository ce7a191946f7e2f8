import DocumentQuery.Proofs.Pagination.Grammar
import DocumentQuery.Proofs.Text.Blank

/-!
Spellings of a whole number in page and limit parameters.

A number in decimal digits is rounded once, however many digits there are (`Numeral.read_natural`). In
hexadecimal, octal and binary the digits behind the 53 bits that a number has room for are lost before
it is rounded. So the two ways of writing a number give different pages exactly where the lost digits
decide a tie (`Pagination.radix_agrees_with_decimal`).
-/

namespace DocumentQuery

/-! ## Decimals without a point -/

namespace Binary64

/-- A number of many digits has more than three bits to a digit. -/
theorem le_log2_of_lt_length {n : Nat} (k : Nat) (long : 62 * k < (Nat.toDigits 10 n).length)
    (positive : n ≠ 0) : 205 * k ≤ n.log2 := by
  refine (Nat.le_log2 positive).mpr ?_
  rcases k.eq_zero_or_pos with rfl | several
  · exact Nat.pos_of_ne_zero positive
  have large : 10 ^ (62 * k) ≤ n := by
    by_contra below
    have short := (Nat.length_toDigits_le_iff (by decide) (by omega)).mpr (Nat.not_le.mp below)
    exact absurd long (Nat.not_lt.mpr short)
  have powers := Nat.pow_le_pow_left (by decide : 2 ^ 205 ≤ 10 ^ 62) k
  rw [← Nat.pow_mul, ← Nat.pow_mul] at powers
  exact powers.trans large

/-- A number of more than 1024 bits is infinite. -/
theorem ofNat_eq_infinite {n : Nat} (large : 1024 ≤ n.log2) : ofNat n = infinite false := by
  have positive : n ≠ 0 := by
    rintro rfl
    exact absurd large (by decide)
  obtain ⟨places, same⟩ : ∃ places, n.log2 = places + 52 := ⟨n.log2 - 52, by omega⟩
  obtain ⟨low, high⟩ := (Nat.log2_eq_iff positive).mp same
  rw [ofNat_eq_carry low high]
  refine carry_eq_infinite false (Or.inl ?_)
  unfold greatestExponent
  omega

/-- A whole number is the same number when it is read as a decimal. -/
theorem ofDecimal_natCast (n : Nat) : ofDecimal false n 0 = ofNat n := by
  rcases n.eq_zero_or_pos with rfl | positive
  · exact (ofRatio_zero false 1).symm
  have nonzero : ¬ (n = 0 ∨ ((Nat.toDigits 10 n).length : Int) < -330) := by omega
  unfold ofDecimal
  simp only [add_zero, if_neg nonzero]
  split
  · next long =>
    have log := le_log2_of_lt_length 5 (by omega) positive.ne'
    exact (ofNat_eq_infinite (by omega)).symm
  · simp [ofNat]

end Binary64

namespace Numeral

/-- Digits, also after a plus sign, are read as the number nearest to the one they denote. -/
theorem read_digits {sign digits : List Char} (plus : sign = [] ∨ sign = ['+'])
    (isDigits : Text.isDigits digits = true) :
    read (sign ++ digits) = .ofNat (Text.digitsValue digits) := by
  have isSign : IsSign sign := plus.imp_right Or.inl
  have positive : sign ≠ ['-'] := by
    rcases plus with rfl | rfl <;> decide
  obtain ⟨nonempty, all⟩ := Text.isDigits_iff.mp isDigits
  have parts := decimal?_append isSign all (Or.inl rfl) (Or.inl nonempty) (rfl : exponent? [] = some 0)
  rw [List.nil_append] at parts
  have number := read_of_decimal isSign (.whole isDigits) .absent parts
  rw [List.append_nil, decide_eq_false positive] at number
  rw [number, Decimal.value]
  simp only [List.drop_nil, List.append_nil, List.length_nil, Nat.cast_zero, sub_zero]
  exact Binary64.ofDecimal_natCast _

theorem read_natural (n : Nat) : read (Text.natural n) = .ofNat n := by
  have number := read_digits (Or.inl rfl) (Text.isDigits_natural n)
  rwa [Text.digitsValue_natural] at number

/-! ## Other radices -/

namespace Radix

variable {radix : Radix} {text : List Char} {n : Nat}

theorem Spells.denotes (spells : radix.Spells text n) : ∃ mark ∈ radix.marks, ∃ digits,
    text = '0' :: mark :: digits ∧ digits ≠ [] ∧ radix.Denotes digits n := by
  obtain ⟨mark, letter, digits, zeros, written, lower⟩ := spells
  refine ⟨mark, letter, digits, written, fun empty => ?_, ?_⟩
  · rw [empty, List.map_nil] at lower
    exact Nat.toDigits_ne_nil (List.append_eq_nil_iff.mp lower.symm).2
  · rw [← denotes_map_toLower, lower]
    exact denotes_toDigits zeros n

/-- A number in another radix is read as the number with zeros for the lost digits. -/
theorem Spells.read_eq (spells : radix.Spells text n) : read text = .ofNat (radix.kept n) := by
  obtain ⟨mark, letter, digits, written, nonempty, denotes⟩ := spells.denotes
  rw [written, read_of_radix letter, ofRadix_of_denotes nonempty denotes]

/-- It is read as the same number in decimal digits, unless the lost digits decide a tie. -/
theorem Spells.read_eq_read_natural_iff (spells : radix.Spells text n) :
    read text = read (Text.natural n) ↔ ¬ radix.LosesTie n := by
  rw [spells.read_eq, read_natural, ofNat_kept_eq_iff]

theorem isBlank_of_isDigit {c : Char} {value : Nat} (digit : radix.IsDigit c value) :
    Text.isBlank c = false := by
  have found := radix.digitOfRadix?_eq_some_iff.mpr digit
  have table : ∀ n < 128, (Text.digitOfRadix? radix.base (Char.ofNat n)).isSome →
      Text.isBlank (Char.ofNat n) = false := by
    cases radix <;> decide +kernel
  have entry := table c.toNat (toNat_lt_of_digitOfRadix? radix found)
  rw [Char.ofNat_toNat, found] at entry
  exact entry rfl

theorem isBlank_of_mem_marks {mark : Char} (letter : mark ∈ radix.marks) :
    Text.isBlank mark = false := by
  cases radix <;>
    · simp only [marks, List.mem_cons, List.not_mem_nil, or_false] at letter
      rcases letter with rfl | rfl <;> decide

theorem Spells.no_blank (spells : radix.Spells text n) : ∀ c ∈ text, Text.isBlank c = false := by
  obtain ⟨mark, letter, digits, rfl, _, values, all, _⟩ := spells.denotes
  have rest : ∀ c ∈ digits, Text.isBlank c = false := by
    intro c member
    obtain ⟨value, digit⟩ := exists_forall₂_iff.mp ⟨values, all⟩ c member
    exact isBlank_of_isDigit digit
  exact List.forall_mem_cons.mpr
    ⟨by decide, List.forall_mem_cons.mpr ⟨isBlank_of_mem_marks letter, rest⟩⟩

end Radix

end Numeral

/-! ## Parameters -/

theorem Parameters.scalar?_insert_self (parameters : Parameters) (key text : String) :
    Parameters.scalar? (Dict.insert parameters key (.single text)) key = some text := by
  rw [scalar?, Dict.get?_insert, if_pos rfl]
  rfl

theorem Parameters.scalar?_insert_of_ne {key other : String} (ne : other ≠ key)
    (parameters : Parameters) (value : RawValue) :
    Parameters.scalar? (Dict.insert parameters key value) other = parameters.scalar? other := by
  rw [scalar?, Dict.get?_insert, if_neg ne, scalar?]

namespace Pagination

theorem number_of_no_blank {text : List Char} (nonempty : text ≠ [])
    (none : ∀ c ∈ text, Text.isBlank c = false) (default : Nat) :
    number (some (String.ofList text)) default = Numeral.read text := by
  have some : String.ofList text ≠ "" := by
    intro empty
    exact nonempty (String.ofList_inj.mp empty)
  rw [number_of_ne_empty some, String.toList_ofList, Text.trim_of_no_blank none, if_neg nonempty]

theorem ofList_ne_null {c : Char} (digit : c.isDigit = true) (rest : List Char) :
    String.ofList (c :: rest) ≠ "null" := by
  intro same
  have first : c = 'n' := (List.cons.inj (String.ofList_inj.mp same)).1
  rw [first] at digit
  cases digit

/-- A parameter given in two ways that are the same number. -/
theorem ofParameters_insert_congr {left right : String} (leftGiven : left ≠ "null")
    (rightGiven : right ≠ "null") (same : ∀ default, number (some left) default = number (some right) default)
    (settings : Settings) (parameters : Parameters) (key : String) :
    ofParameters settings (Dict.insert parameters key (.single left)) =
      ofParameters settings (Dict.insert parameters key (.single right)) := by
  have numbers : ∀ name default,
      number (Parameters.scalar? (Dict.insert parameters key (.single left)) name) default =
        number (Parameters.scalar? (Dict.insert parameters key (.single right)) name) default := by
    intro name default
    by_cases here : name = key
    · rw [here, Parameters.scalar?_insert_self, Parameters.scalar?_insert_self, same]
    · rw [Parameters.scalar?_insert_of_ne here, Parameters.scalar?_insert_of_ne here]
  have limited : Parameters.scalar? (Dict.insert parameters key (.single left)) settings.limitKey = some "null" ↔
      Parameters.scalar? (Dict.insert parameters key (.single right)) settings.limitKey = some "null" := by
    by_cases here : settings.limitKey = key
    · rw [here, Parameters.scalar?_insert_self, Parameters.scalar?_insert_self, Option.some.injEq,
        Option.some.injEq]
      exact iff_of_false leftGiven rightGiven
    · rw [Parameters.scalar?_insert_of_ne here, Parameters.scalar?_insert_of_ne here]
  unfold ofParameters
  simp only [limited, numbers]

/-- Where a limit is given that is not `null`, the pagination has it. -/
theorem ofParameters_insert_limit {text : String} (given : text ≠ "null") (settings : Settings)
    (parameters : Parameters) :
    (ofParameters settings (Dict.insert parameters settings.limitKey (.single text))).map limit =
      some (number (some text) settings.defaultLimit) := by
  have limited : some text ≠ some "null" := fun same => given (Option.some.inj same)
  unfold ofParameters
  rw [Parameters.scalar?_insert_self]
  simp only [if_neg limited]
  rfl

/-- A whole number in hexadecimal, octal or binary gives the same number as in decimal digits, which give
the nearest one, and the same pagination wherever it stands, unless the lost digits decide a tie. Then
the two are different numbers, and different limits. -/
theorem radix_agrees_with_decimal {radix : Numeral.Radix} {text : List Char} {n : Nat}
    (spells : radix.Spells text n) :
    Binary64.IsNearest n (Numeral.read (Text.natural n)) ∧
      Binary64.IsNearest (radix.kept n) (Numeral.read text) ∧
      (Numeral.read text = Numeral.read (Text.natural n) ↔ ¬ radix.LosesTie n) ∧
      ∀ (settings : Settings) (parameters : Parameters),
        (¬ radix.LosesTie n → ∀ key,
          ofParameters settings (Dict.insert parameters key (.single (String.ofList text))) =
            ofParameters settings (Dict.insert parameters key (.single (toString n)))) ∧
        (radix.LosesTie n →
          ofParameters settings (Dict.insert parameters settings.limitKey (.single (String.ofList text))) ≠
            ofParameters settings (Dict.insert parameters settings.limitKey (.single (toString n)))) := by
  have nearest : ∀ m : Nat, Binary64.IsNearest m (.ofNat m) := by
    intro m
    rw [Binary64.ofNat_eq_ofRat]
    exact Binary64.isNearest_ofRat (Nat.cast_nonneg m)
  have numbers := spells.read_eq_read_natural_iff
  obtain ⟨mark, _, digits, written, _, _⟩ := spells.denotes
  obtain ⟨first, rest, decimal, digit⟩ := Text.natural_eq_cons n
  have limited : String.ofList text ≠ "null" := by
    rw [written]
    exact ofList_ne_null rfl _
  have limited' : toString n ≠ "null" := by
    change String.ofList (Text.natural n) ≠ "null"
    rw [decimal]
    exact ofList_ne_null digit rest
  have given : ∀ default, number (some (String.ofList text)) default = Numeral.read text :=
    number_of_no_blank (by rw [written]; nofun) spells.no_blank
  have given' : ∀ default, number (some (toString n)) default = Numeral.read (Text.natural n) :=
    number_of_no_blank Nat.toDigits_ne_nil fun c member =>
      Text.isBlank_of_isDigit (Text.isDigit_of_mem_natural member)
  refine ⟨?_, ?_, numbers, fun settings parameters => ⟨fun kept key => ?_, fun lost same => ?_⟩⟩
  · rw [Numeral.read_natural]
    exact nearest n
  · rw [spells.read_eq]
    exact nearest _
  · refine ofParameters_insert_congr limited limited' (fun default => ?_) settings parameters key
    rw [given, given', numbers.mpr kept]
  · have limits := congrArg (Option.map limit) same
    rw [ofParameters_insert_limit limited, ofParameters_insert_limit limited', given, given',
      Option.some.injEq] at limits
    exact numbers.mp limits lost

/-- `2 ^ 57 + 17` lies above the middle of two numbers. Its last digit is lost, and in the tie that is
left it goes down. -/
theorem radix_agrees_with_decimal_tie :
    let text := "0X200000000000011".toList
    let n := 2 ^ 57 + 17
    let limits (value : String) := Parameters.ofPairs [("page", "2"), ("limit", value)]
    Numeral.Radix.Spells .hexadecimal text n ∧ Numeral.Radix.LosesTie .hexadecimal n ∧
      Numeral.read text = .ofNat (2 ^ 57) ∧ Numeral.read (Text.natural n) = .ofNat (2 ^ 57 + 32) ∧
      Numeral.read text ≠ Numeral.read (Text.natural n) ∧
      ofParameters .builtin (limits "0X200000000000011") ≠
        ofParameters .builtin (limits "144115188075855889") := by
  intro text n limits
  have spells : Numeral.Radix.Spells .hexadecimal text n :=
    ⟨'X', by decide, "200000000000011".toList, 0, by decide, by decide +kernel⟩
  have lost : Numeral.Radix.LosesTie .hexadecimal n := by decide +kernel
  obtain ⟨_, _, numbers, paginations⟩ := radix_agrees_with_decimal spells
  have different := (paginations .builtin (Parameters.ofPairs [("page", "2")])).2 lost
  have left : Dict.insert (Parameters.ofPairs [("page", "2")]) Settings.builtin.limitKey
      (.single (String.ofList text)) = limits "0X200000000000011" := by decide +kernel
  have right : Dict.insert (Parameters.ofPairs [("page", "2")]) Settings.builtin.limitKey
      (.single (toString n)) = limits "144115188075855889" := by decide +kernel
  rw [left, right] at different
  exact ⟨spells, lost, by decide +kernel, by decide +kernel, fun same => numbers.mp same lost, different⟩

end Pagination

end DocumentQuery
