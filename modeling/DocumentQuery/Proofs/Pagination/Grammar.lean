import DocumentQuery.Pagination.Basic
import DocumentQuery.Proofs.Pagination.Radix
import DocumentQuery.Proofs.Text.Decimal

/-!
Which texts in page and limit parameters are numbers.

`Numeral.IsNumeral` is the grammar, said without the reader: a decimal with a sign, a point and an
exponent where they are given, the name of an infinite number, or a whole number that announces its
radix. A text has a value that is a number exactly when it is one of these (`Numeral.read_ne_nan_iff`),
and a text in a parameter when it is one after trimming, or blank. What is no number makes the offset
no number, whichever of the two parameters it stands in (`Pagination.numbers_are_numerals`).
-/

namespace DocumentQuery

namespace Numeral

/-! ## The grammar -/

/-- Whether a text is a sign, or empty. -/
def IsSign (text : List Char) : Prop :=
  text = [] ∨ text = ['+'] ∨ text = ['-']

/-- Whether a text is digits, with a point after, among or before them, or without. -/
inductive IsMantissa : List Char → Prop
  | whole {digits : List Char} (isDigits : Text.isDigits digits = true) : IsMantissa digits
  | pointed {digits more : List Char} (isDigits : Text.isDigits digits = true)
      (all : ∀ c ∈ more, c.isDigit = true) : IsMantissa (digits ++ '.' :: more)
  | fraction {digits : List Char} (isDigits : Text.isDigits digits = true) : IsMantissa ('.' :: digits)

/-- Whether a text is an exponent, or empty. -/
inductive IsExponent : List Char → Prop
  | absent : IsExponent []
  | given {mark : Char} {sign digits : List Char} (letter : mark = 'e' ∨ mark = 'E')
      (isSign : IsSign sign) (isDigits : Text.isDigits digits = true) :
      IsExponent (mark :: (sign ++ digits))

/-- Whether a text is a numeral. -/
inductive IsNumeral : List Char → Prop
  | infinity {sign : List Char} (isSign : IsSign sign) : IsNumeral (sign ++ "Infinity".toList)
  | decimal {sign mantissa exponent : List Char} (isSign : IsSign sign)
      (isMantissa : IsMantissa mantissa) (isExponent : IsExponent exponent) :
      IsNumeral (sign ++ (mantissa ++ exponent))
  | radix {radix : Radix} {mark : Char} {digits : List Char} (announced : mark ∈ radix.marks)
      (nonempty : digits ≠ []) (all : ∀ c ∈ digits, ∃ value, radix.IsDigit c value) :
      IsNumeral ('0' :: mark :: digits)

/-! ## Signs -/

theorem exists_sign (text : List Char) : ∃ sign, IsSign sign ∧ text = sign ++ (takeSign text).2 := by
  unfold takeSign
  split
  · exact ⟨['-'], Or.inr (Or.inr rfl), rfl⟩
  · exact ⟨['+'], Or.inr (Or.inl rfl), rfl⟩
  · exact ⟨[], Or.inl rfl, rfl⟩

theorem takeSign_append {sign : List Char} (isSign : IsSign sign) {c : Char} (rest : List Char)
    (plus : c ≠ '+') (minus : c ≠ '-') :
    takeSign (sign ++ c :: rest) = (decide (sign = ['-']), c :: rest) := by
  rcases isSign with rfl | rfl | rfl
  · unfold takeSign
    split
    · next same => exact absurd (List.cons.inj same).1 minus
    · next same => exact absurd (List.cons.inj same).1 plus
    · rfl
  · rfl
  · rfl

theorem not_sign_of_isDigit {c : Char} (digit : c.isDigit = true) : c ≠ '+' ∧ c ≠ '-' ∧ c ≠ '.' := by
  refine ⟨?_, ?_, ?_⟩ <;>
    · rintro rfl
      cases digit

/-! ## Infinite numbers -/

theorem infinity?_ne_none_iff {text : List Char} :
    infinity? text ≠ none ↔ ∃ sign, IsSign sign ∧ text = sign ++ "Infinity".toList := by
  constructor
  · intro found
    obtain ⟨sign, isSign, parts⟩ := exists_sign text
    unfold infinity? at found
    simp only at found
    split at found
    · next name => exact ⟨sign, isSign, name ▸ parts⟩
    · exact absurd rfl found
  · rintro ⟨sign, isSign, rfl⟩
    have name : "Infinity".toList = 'I' :: "nfinity".toList := by decide
    unfold infinity?
    rw [name, takeSign_append isSign _ (by decide) (by decide)]
    simp

theorem infinity?_ne_nan (text : List Char) : infinity? text ≠ some .nan := by
  unfold infinity?
  simp only
  split <;> nofun

/-! ## Exponents -/

theorem exponent?_ne_none_iff {text : List Char} : exponent? text ≠ none ↔ IsExponent text := by
  constructor
  · intro found
    cases text with
    | nil => exact .absent
    | cons mark text =>
      obtain ⟨sign, isSign, parts⟩ := exists_sign text
      rw [exponent?] at found
      split at found
      · next letter =>
        simp only at found
        split at found
        · next digits =>
          rw [parts]
          exact .given letter isSign digits
        · exact absurd rfl found
      · exact absurd rfl found
  · intro isExponent
    cases isExponent with
    | absent => nofun
    | @given mark sign digits letter isSign isDigits =>
      obtain ⟨c, rest, rfl, digit⟩ := Text.exists_cons_of_isDigits isDigits
      obtain ⟨plus, minus, _⟩ := not_sign_of_isDigit digit
      rw [exponent?, if_pos letter, takeSign_append isSign rest plus minus]
      simp [isDigits]

theorem IsExponent.takeFraction_eq {text : List Char} (isExponent : IsExponent text) :
    takeFraction text = ([], text) ∧ text.takeWhile Char.isDigit = [] ∧
      text.dropWhile Char.isDigit = text := by
  cases isExponent with
  | absent => exact ⟨rfl, rfl, rfl⟩
  | given letter _ _ => rcases letter with rfl | rfl <;> exact ⟨rfl, rfl, rfl⟩

/-! ## Decimal numerals -/

/-- Whether a text is a point and digits, of which there may be none, or empty. -/
def IsFraction (text : List Char) : Prop :=
  text = [] ∨ ∃ more, text = '.' :: more ∧ ∀ c ∈ more, c.isDigit = true

/-- The parts of a decimal numeral are found where its text is put together from them. -/
theorem decimal?_append {sign whole fraction exponent : List Char} {power : Int}
    (isSign : IsSign sign) (digits : ∀ c ∈ whole, c.isDigit = true) (isFraction : IsFraction fraction)
    (nonempty : whole ≠ [] ∨ fraction.drop 1 ≠ []) (read : exponent? exponent = some power) :
    decimal? (sign ++ (whole ++ (fraction ++ exponent))) =
      some ⟨decide (sign = ['-']), whole, fraction.drop 1, power⟩ := by
  have isExponent : IsExponent exponent := exponent?_ne_none_iff.mp (by rw [read]; nofun)
  obtain ⟨noFraction, noDigits, noDrop⟩ := isExponent.takeFraction_eq
  have signed : takeSign (sign ++ (whole ++ (fraction ++ exponent))) =
      (decide (sign = ['-']), whole ++ (fraction ++ exponent)) := by
    cases whole with
    | cons c whole =>
      obtain ⟨plus, minus, _⟩ := not_sign_of_isDigit (digits c List.mem_cons_self)
      exact takeSign_append isSign _ plus minus
    | nil =>
      rcases isFraction with rfl | ⟨more, rfl, _⟩
      · exact absurd nonempty (by simp)
      · exact takeSign_append isSign _ (by decide) (by decide)
  have taken : (fraction ++ exponent).takeWhile Char.isDigit = [] ∧
      takeFraction ((fraction ++ exponent).dropWhile Char.isDigit) = (fraction.drop 1, exponent) := by
    rcases isFraction with rfl | ⟨more, rfl, all⟩
    · rw [List.nil_append, noDigits, noDrop, noFraction]
      exact ⟨rfl, rfl⟩
    · refine ⟨rfl, ?_⟩
      change ((more ++ exponent).takeWhile Char.isDigit, (more ++ exponent).dropWhile Char.isDigit) = _
      rw [List.takeWhile_append_of_pos all, List.dropWhile_append_of_pos all, noDigits, noDrop,
        List.append_nil]
      rfl
  have some : (whole.isEmpty && (fraction.drop 1).isEmpty) = false := by
    rw [Bool.and_eq_false_iff]
    simpa using nonempty
  unfold decimal?
  rw [signed]
  simp only [List.takeWhile_append_of_pos digits, List.dropWhile_append_of_pos digits, taken,
    List.append_nil, read, Option.bind_eq_bind, Option.bind_some, some, Bool.false_eq_true, if_false]

theorem exists_fraction (text : List Char) : ∃ fraction, IsFraction fraction ∧
    text = fraction ++ (takeFraction text).2 ∧ (takeFraction text).1 = fraction.drop 1 := by
  unfold takeFraction
  split
  · next text =>
    refine ⟨'.' :: text.takeWhile Char.isDigit, Or.inr ⟨_, rfl, fun c member => ?_⟩, ?_, rfl⟩
    · exact List.all_eq_true.mp List.all_takeWhile c member
    · rw [List.cons_append, List.takeWhile_append_dropWhile]
  · exact ⟨[], Or.inl rfl, rfl, rfl⟩

theorem isMantissa_append {whole fraction : List Char} (digits : ∀ c ∈ whole, c.isDigit = true)
    (isFraction : IsFraction fraction) (nonempty : whole ≠ [] ∨ fraction.drop 1 ≠ []) :
    IsMantissa (whole ++ fraction) := by
  rcases isFraction with rfl | ⟨more, rfl, all⟩
  · rw [List.append_nil]
    exact .whole (Text.isDigits_iff.mpr ⟨by simpa using nonempty, digits⟩)
  · by_cases empty : whole = []
    · subst empty
      exact .fraction (Text.isDigits_iff.mpr ⟨by simpa using nonempty, all⟩)
    · exact .pointed (Text.isDigits_iff.mpr ⟨empty, digits⟩) all

theorem decimal?_ne_none_iff {text : List Char} : decimal? text ≠ none ↔
    ∃ sign mantissa exponent, IsSign sign ∧ IsMantissa mantissa ∧ IsExponent exponent ∧
      text = sign ++ (mantissa ++ exponent) := by
  constructor
  · intro found
    obtain ⟨sign, isSign, parts⟩ := exists_sign text
    obtain ⟨numeral, read⟩ := Option.ne_none_iff_exists'.mp found
    unfold decimal? at read
    simp only at read
    rw [Option.bind_eq_bind, Option.bind_eq_some_iff] at read
    obtain ⟨power, exponent, kept⟩ := read
    obtain ⟨fraction, isFraction, after, digits⟩ :=
      exists_fraction ((takeSign text).2.dropWhile Char.isDigit)
    have isExponent := exponent?_ne_none_iff.mp (by rw [exponent]; nofun)
    have nonempty : (takeSign text).2.takeWhile Char.isDigit ≠ [] ∨ fraction.drop 1 ≠ [] := by
      split at kept
      · cases kept
      · next some =>
        rwa [digits, Bool.and_eq_true, List.isEmpty_iff, List.isEmpty_iff, not_and_or] at some
    have all : ∀ c ∈ (takeSign text).2.takeWhile Char.isDigit, c.isDigit = true := fun c member =>
      List.all_eq_true.mp List.all_takeWhile c member
    refine ⟨sign, _, _, isSign, isMantissa_append all isFraction nonempty, isExponent, ?_⟩
    rw [List.append_assoc, ← after, List.takeWhile_append_dropWhile]
    exact parts
  · rintro ⟨sign, mantissa, exponent, isSign, isMantissa, isExponent, rfl⟩
    obtain ⟨power, read⟩ := Option.ne_none_iff_exists'.mp (exponent?_ne_none_iff.mpr isExponent)
    cases isMantissa with
    | whole isDigits =>
      obtain ⟨nonempty, all⟩ := Text.isDigits_iff.mp isDigits
      have numeral := decimal?_append isSign all (Or.inl rfl) (Or.inl nonempty) read
      rw [List.nil_append] at numeral
      rw [numeral]
      nofun
    | pointed isDigits more =>
      obtain ⟨nonempty, all⟩ := Text.isDigits_iff.mp isDigits
      have numeral := decimal?_append isSign all (Or.inr ⟨_, rfl, more⟩) (Or.inl nonempty) read
      rw [List.append_assoc, numeral]
      nofun
    | fraction isDigits =>
      obtain ⟨nonempty, all⟩ := Text.isDigits_iff.mp isDigits
      have numeral := decimal?_append isSign (List.forall_mem_nil _) (Or.inr ⟨_, rfl, all⟩)
        (Or.inr nonempty) read
      rw [List.nil_append] at numeral
      rw [numeral]
      nofun

/-! ## Radix numerals -/

theorem radix?_eq_some_iff {text digits : List Char} {base : Nat} :
    radix? text = some (base, digits) ↔
      ∃ (radix : Radix) (mark : Char), mark ∈ radix.marks ∧ text = '0' :: mark :: digits ∧
        base = radix.base := by
  constructor
  · intro announced
    unfold radix? at announced
    split at announced
    · next mark rest =>
      split at announced
      · next letter =>
        obtain ⟨rfl, rfl⟩ := Prod.mk.inj (Option.some.inj announced)
        exact ⟨.hexadecimal, mark, by simpa [Radix.marks] using letter, rfl, rfl⟩
      · split at announced
        · next letter =>
          obtain ⟨rfl, rfl⟩ := Prod.mk.inj (Option.some.inj announced)
          exact ⟨.octal, mark, by simpa [Radix.marks] using letter, rfl, rfl⟩
        · split at announced
          · next letter =>
            obtain ⟨rfl, rfl⟩ := Prod.mk.inj (Option.some.inj announced)
            exact ⟨.binary, mark, by simpa [Radix.marks] using letter, rfl, rfl⟩
          · cases announced
    · cases announced
  · rintro ⟨radix, mark, letter, rfl, rfl⟩
    cases radix <;>
      · simp only [Radix.marks, List.mem_cons, List.not_mem_nil, or_false] at letter
        rcases letter with rfl | rfl <;> rfl

theorem ofRadix_ne_nan_iff {radix : Radix} {digits : List Char} :
    ofRadix radix.base digits ≠ .nan ↔
      digits ≠ [] ∧ ∀ c ∈ digits, ∃ value, radix.IsDigit c value := by
  constructor
  · intro number
    unfold ofRadix at number
    split at number
    · next read =>
      have all := Radix.mapM_digitOfRadix?.mp read
      refine ⟨?_, exists_forall₂_iff.mp ⟨_, all⟩⟩
      rintro rfl
      cases all
    · exact absurd rfl number
  · rintro ⟨nonempty, all⟩
    obtain ⟨values, denoted⟩ := exists_forall₂_iff.mpr all
    rw [Radix.ofRadix_of_denotes nonempty ⟨values, denoted, rfl⟩]
    exact Binary64.ofRatio_ne_nan _ _ _

/-! ## Numerals -/

theorem Decimal.value_ne_nan (decimal : Decimal) : decimal.value ≠ .nan := by
  unfold value Binary64.ofDecimal
  simp only
  split
  · nofun
  · split
    · nofun
    · exact Binary64.ofRatio_ne_nan _ _ _

theorem Radix.not_decimal_of_mem_marks {radix : Radix} {mark : Char} (letter : mark ∈ radix.marks) :
    mark.isDigit = false ∧ mark ∉ ['.', 'e', 'E', '+', '-'] := by
  cases radix <;>
    · simp only [Radix.marks, List.mem_cons, List.not_mem_nil, or_false] at letter
      rcases letter with rfl | rfl <;> decide

/-- The characters of a decimal numeral. -/
theorem mem_decimal {sign mantissa exponent : List Char} (isSign : IsSign sign)
    (isMantissa : IsMantissa mantissa) (isExponent : IsExponent exponent) {c : Char}
    (member : c ∈ sign ++ (mantissa ++ exponent)) :
    c.isDigit = true ∨ c ∈ ['.', 'e', 'E', '+', '-'] := by
  have ofSign : ∀ {sign : List Char}, IsSign sign → c ∈ sign → c ∈ ['.', 'e', 'E', '+', '-'] := by
    rintro _ (rfl | rfl | rfl) <;> simp +contextual
  have ofDigits : ∀ {digits : List Char}, Text.isDigits digits = true → c ∈ digits → c.isDigit = true :=
    fun digits => (Text.isDigits_iff.mp digits).2 c
  rw [List.mem_append, List.mem_append] at member
  rcases member with inSign | inMantissa | inExponent
  · exact Or.inr (ofSign isSign inSign)
  · cases isMantissa with
    | whole digits => exact Or.inl (ofDigits digits inMantissa)
    | pointed digits more =>
      rcases List.mem_append.mp inMantissa with front | back
      · exact Or.inl (ofDigits digits front)
      · rcases List.mem_cons.mp back with rfl | inside
        · exact Or.inr (by decide)
        · exact Or.inl (more c inside)
    | fraction digits =>
      rcases List.mem_cons.mp inMantissa with rfl | inside
      · exact Or.inr (by decide)
      · exact Or.inl (ofDigits digits inside)
  · cases isExponent with
    | absent => cases inExponent
    | given letter isSign digits =>
      rcases List.mem_cons.mp inExponent with rfl | rest
      · rcases letter with rfl | rfl <;> exact Or.inr (by decide)
      · rcases List.mem_append.mp rest with front | back
        · exact Or.inr (ofSign isSign front)
        · exact Or.inl (ofDigits digits back)

/-- A decimal numeral is no numeral of another kind. -/
theorem read_of_decimal {sign mantissa exponent : List Char} (isSign : IsSign sign)
    (isMantissa : IsMantissa mantissa) (isExponent : IsExponent exponent) {decimal : Decimal}
    (parts : decimal? (sign ++ (mantissa ++ exponent)) = some decimal) :
    read (sign ++ (mantissa ++ exponent)) = decimal.value := by
  have characters := fun c => @mem_decimal _ _ _ isSign isMantissa isExponent c
  have notInfinite : infinity? (sign ++ (mantissa ++ exponent)) = none := by
    by_contra infinite
    obtain ⟨sign', _, text⟩ := infinity?_ne_none_iff.mp infinite
    have letter : 'I' ∈ sign ++ (mantissa ++ exponent) := by
      rw [text]
      exact List.mem_append_right _ (by decide)
    exact absurd (characters 'I' letter) (by decide)
  have notRadix : radix? (sign ++ (mantissa ++ exponent)) = none := by
    by_contra announced
    obtain ⟨⟨base, digits⟩, found⟩ := Option.ne_none_iff_exists'.mp announced
    obtain ⟨radix, mark, letter, text, _⟩ := radix?_eq_some_iff.mp found
    obtain ⟨notDigit, notMark⟩ := Radix.not_decimal_of_mem_marks letter
    have inside : mark ∈ sign ++ (mantissa ++ exponent) := by
      rw [text]
      exact List.mem_cons_of_mem _ List.mem_cons_self
    rcases characters mark inside with digit | member
    · rw [notDigit] at digit
      cases digit
    · exact notMark member
  rw [read, notInfinite, notRadix, parts]

theorem read_of_radix {radix : Radix} {mark : Char} (letter : mark ∈ radix.marks) (digits : List Char) :
    read ('0' :: mark :: digits) = ofRadix radix.base digits := by
  have notInfinite : infinity? ('0' :: mark :: digits) = none := by
    by_contra infinite
    obtain ⟨sign, isSign, text⟩ := infinity?_ne_none_iff.mp infinite
    rcases isSign with rfl | rfl | rfl <;> cases text
  rw [read, notInfinite, radix?_eq_some_iff.mpr ⟨radix, mark, letter, rfl, rfl⟩]

/-- A text has a value that is a number when it is a numeral, and only then. -/
theorem read_ne_nan_iff {text : List Char} : read text ≠ .nan ↔ IsNumeral text := by
  constructor
  · intro number
    unfold read at number
    split at number
    · next infinite =>
      obtain ⟨sign, isSign, rfl⟩ := infinity?_ne_none_iff.mp (by rw [infinite]; nofun)
      exact .infinity isSign
    · next announced =>
      obtain ⟨radix, mark, letter, rfl, rfl⟩ := radix?_eq_some_iff.mp announced
      obtain ⟨nonempty, all⟩ := ofRadix_ne_nan_iff.mp number
      exact .radix letter nonempty all
    · split at number
      · next parts =>
        obtain ⟨sign, mantissa, exponent, isSign, isMantissa, isExponent, rfl⟩ :=
          decimal?_ne_none_iff.mp (by rw [parts]; nofun)
        exact .decimal isSign isMantissa isExponent
      · exact absurd rfl number
  · intro isNumeral
    cases isNumeral with
    | infinity isSign =>
      obtain ⟨value, infinite⟩ :=
        Option.ne_none_iff_exists'.mp (infinity?_ne_none_iff.mpr ⟨_, isSign, rfl⟩)
      rw [read, infinite]
      rintro rfl
      exact infinity?_ne_nan _ infinite
    | decimal isSign isMantissa isExponent =>
      obtain ⟨decimal, parts⟩ := Option.ne_none_iff_exists'.mp
        (decimal?_ne_none_iff.mpr ⟨_, _, _, isSign, isMantissa, isExponent, rfl⟩)
      rw [read_of_decimal isSign isMantissa isExponent parts]
      exact decimal.value_ne_nan
    | radix letter nonempty all =>
      rw [read_of_radix letter]
      exact ofRadix_ne_nan_iff.mpr ⟨nonempty, all⟩

end Numeral

/-! ## Parameters -/

namespace Pagination

/-- Whether a text that is not empty asks for a number: it is blank, or a numeral between blanks. -/
def AsksForNumber (text : String) : Prop :=
  Text.trim text.toList = [] ∨ Numeral.IsNumeral (Text.trim text.toList)

theorem number_of_ne_empty {text : String} (nonempty : text ≠ "") (default : Nat) :
    number (some text) default =
      if Text.trim text.toList = [] then .zero false else Numeral.read (Text.trim text.toList) := by
  unfold number
  simp only [if_neg nonempty, List.isEmpty_iff]

theorem number_ne_nan_iff {text : String} (nonempty : text ≠ "") (default : Nat) :
    number (some text) default ≠ .nan ↔ AsksForNumber text := by
  rw [number_of_ne_empty nonempty, AsksForNumber]
  split
  · next blank => exact iff_of_true nofun (Or.inl blank)
  · next text => rw [Numeral.read_ne_nan_iff, or_iff_right text]

theorem window?_of_offset_nan {pagination : Pagination} (offset : pagination.offset = .nan) :
    pagination.window? = none := by
  unfold window?
  rw [offset]
  cases word? pagination.limit <;> rfl

/-- A page or a limit that is no number makes the offset no number. -/
theorem offset_ofPage_eq_nan {page size : Binary64} (nan : page = .nan ∨ size = .nan) :
    (ofPage page size).offset = .nan := by
  unfold ofPage
  rcases nan with rfl | rfl
  · rw [Binary64.nan_sub, Binary64.nan_mul]
  · rw [Binary64.mul_nan]

/-- A text that is not empty is a number exactly when it asks for one, and a blank one is zero. Where
the limit is not the text `null`, a page or a limit that asks for no number leaves a pagination whose
offset is no number, whose limit is none if it is the text at fault, and which has no window. -/
theorem numbers_are_numerals :
    (∀ (text : String) (default : Nat), text ≠ "" →
        (number (some text) default ≠ .nan ↔ AsksForNumber text) ∧
          (Text.trim text.toList = [] → number (some text) default = .zero false)) ∧
      ∀ (settings : Settings) (parameters : Parameters),
        parameters.scalar? settings.limitKey ≠ some "null" →
          ∀ key ∈ [settings.pageKey, settings.limitKey], ∀ text,
            parameters.scalar? key = some text → text ≠ "" → ¬ AsksForNumber text →
              ∃ pagination, ofParameters settings parameters = some pagination ∧
                pagination.offset = .nan ∧
                (key = settings.limitKey → pagination.limit = .nan) ∧ pagination.window? = none := by
  constructor
  · intro text default nonempty
    refine ⟨number_ne_nan_iff nonempty default, fun blank => ?_⟩
    rw [number_of_ne_empty nonempty, if_pos blank]
  · intro settings parameters limited key reserved text given nonempty outside
    have nan : ∀ default, number (some text) default = .nan := fun default =>
      not_not.mp (mt (number_ne_nan_iff nonempty default).mp outside)
    have offset : (ofPage (number (parameters.scalar? settings.pageKey) settings.defaultPage)
        (number (parameters.scalar? settings.limitKey) settings.defaultLimit)).offset = .nan := by
      apply offset_ofPage_eq_nan
      rw [List.mem_pair] at reserved
      rcases reserved with rfl | rfl
      · exact Or.inl (given ▸ nan _)
      · exact Or.inr (given ▸ nan _)
    refine ⟨_, if_neg limited, offset, ?_, window?_of_offset_nan offset⟩
    rintro rfl
    exact given ▸ nan _

/-- A sign in front of a radix, in a limit between blanks, is outside the grammar. -/
theorem numbers_are_numerals_signed_radix :
    let parameters := Parameters.ofPairs [("page", "2"), ("limit", " -0x10 ")]
    parameters.scalar? "limit" = some " -0x10 " ∧ ¬ AsksForNumber " -0x10 " ∧
      ∃ pagination, ofParameters .builtin parameters = some pagination ∧
        pagination.limit = .nan ∧ pagination.offset = .nan ∧ pagination.window? = none := by
  intro parameters
  have given : parameters.scalar? "limit" = some " -0x10 " := by decide
  have nonempty : " -0x10 " ≠ "" := by decide
  have outside : ¬ AsksForNumber " -0x10 " := by
    rw [← (numbers_are_numerals.1 " -0x10 " 10 nonempty).1, not_not]
    decide +kernel
  have limited : parameters.scalar? Settings.builtin.limitKey ≠ some "null" := by
    change parameters.scalar? "limit" ≠ some "null"
    rw [given]
    decide
  obtain ⟨pagination, found, offset, limit, window⟩ := numbers_are_numerals.2 .builtin parameters limited
    "limit" (by decide) " -0x10 " given nonempty outside
  exact ⟨given, outside, pagination, found, limit rfl, offset, window⟩

end Pagination

end DocumentQuery
