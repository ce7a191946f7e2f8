import DocumentQuery.Proofs.Binary64.Arithmetic
import DocumentQuery.Proofs.Pagination.Spelling
import DocumentQuery.Proofs.Pagination.Written
import DocumentQuery.Proofs.Parameters.Object

/-!
The page that is asked for.

A page and a limit can be given as a text, as a whole number in a JSON object, or by the settings. As
long as the numbers have at most 53 bits nothing on the way rounds them, so the window starts behind the
pages before, and this is what is written (`Pagination.page_is_exact`).
-/

namespace DocumentQuery.Pagination

/-! ## Ways to give a number -/

/-- Whether a text is the decimal digits of a number, between blanks, also with a plus sign and leading
zeros. -/
def SpellsWhole (text : String) (n : Nat) : Prop :=
  ∃ before sign zeros after, text.toList =
      before ++ ((sign ++ (List.replicate zeros '0' ++ Text.natural n)) ++ after) ∧
    (∀ c ∈ before, Text.isBlank c = true) ∧ (sign = [] ∨ sign = ['+']) ∧
    ∀ c ∈ after, Text.isBlank c = true

/-- Whether parameters give the number `n` under a key, where the settings have a default. -/
inductive Gives (parameters : Parameters) (key : String) (default n : Nat) : Prop
  | text {text : String} (given : parameters.scalar? key = some text) (spells : SpellsWhole text n)
  | json {members : List (String × Json)} (read : Parameters.ofJson (.object members) = .ok parameters)
      (given : (Dict.ofList members).get? key = some (.integer n))
  | absent (given : parameters.get? key = none) (assumed : default = n)
  | null (given : parameters.get? key = some .null) (assumed : default = n)
  | empty (given : parameters.scalar? key = some "") (assumed : default = n)

theorem number_of_spellsWhole {text : String} {n : Nat} (spells : SpellsWhole text n) (default : Nat) :
    number (some text) default = .ofNat n := by
  obtain ⟨before, sign, zeros, after, written, front, plus, back⟩ := spells
  have all : ∀ c ∈ List.replicate zeros '0' ++ Text.natural n, c.isDigit = true := fun _ =>
    Text.isDigit_of_mem_zeros_natural
  have nonempty : List.replicate zeros '0' ++ Text.natural n ≠ [] :=
    List.append_ne_nil_of_right_ne_nil _ Nat.toDigits_ne_nil
  have signed := List.append_ne_nil_of_right_ne_nil sign nonempty
  have noBlank : ∀ c ∈ sign ++ (List.replicate zeros '0' ++ Text.natural n), Text.isBlank c = false := by
    intro c member
    rcases List.mem_append.mp member with inSign | digit
    · rcases plus with rfl | rfl
      · cases inSign
      · rw [List.mem_singleton.mp inSign]
        decide
    · exact Text.isBlank_of_isDigit (all c digit)
  have some : text ≠ "" := by
    intro empty
    rw [empty] at written
    exact signed (List.append_eq_nil_iff.mp (List.append_eq_nil_iff.mp written.symm).2).1
  rw [number_of_ne_empty some, written, Text.trim_append front back,
    Text.trim_of_no_blank noBlank, if_neg signed,
    Numeral.read_digits plus (Text.isDigits_iff.mpr ⟨nonempty, all⟩), Text.digitsValue_zeros_natural]

theorem spellsWhole_toString (n : Nat) : SpellsWhole (toString n) n :=
  ⟨[], [], 0, [], by simp [Text.natural], List.forall_mem_nil _, Or.inl rfl, List.forall_mem_nil _⟩

/-- A whole number in a JSON object gives its digits. -/
theorem rawValue?_integer (n : Nat) : (Json.integer n).rawValue? = some (.single (toString n)) := by
  have written : Json.write .compact 0 (.integer n) = Text.natural n := by
    rw [Json.write, Text.integer, if_neg (by omega), Int.natAbs_natCast]
  have raw : (Json.integer n).rawValue? = some (.single (Json.integer n).compact) := rfl
  rw [raw, Json.compact, written]
  rfl

/-- Whichever way a number is given, it is the one that is read, rounded once. -/
theorem number_of_gives {parameters : Parameters} {key : String} {default n : Nat}
    (gives : Gives parameters key default n) :
    number (parameters.scalar? key) default = .ofNat n := by
  cases gives with
  | text given spells => rw [given, number_of_spellsWhole spells]
  | json read given =>
    have scalar : parameters.scalar? key = some (toString n) := by
      rw [Parameters.scalar?, Parameters.get?_ofJson read, given, Option.bind_some, rawValue?_integer]
      rfl
    rw [scalar, number_of_spellsWhole (spellsWhole_toString n)]
  | absent given assumed =>
    rw [Parameters.scalar?, given, ← assumed]
    rfl
  | null given assumed =>
    rw [Parameters.scalar?, given, ← assumed]
    rfl
  | empty given assumed =>
    rw [given, ← assumed]
    rfl

theorem scalar?_ne_null_of_gives {parameters : Parameters} {key : String} {default n : Nat}
    (gives : Gives parameters key default n) : parameters.scalar? key ≠ some "null" := by
  intro given
  have number := number_of_gives gives
  rw [given] at number
  exact Binary64.ofRatio_ne_nan _ _ _ number.symm

/-! ## The window of a page -/

theorem value?_offset_ofPage {page limit : Nat} (first : 1 ≤ page) (pageBits : page ≤ 2 ^ 53)
    (limitBits : limit ≤ 2 ^ 53) (offsetBits : (page - 1) * limit ≤ 2 ^ 53) :
    (ofPage (.ofNat page) (.ofNat limit)).offset.value? = some (((page - 1) * limit : Nat) : ℚ) := by
  have before : (page : ℚ) - (1 : Nat) = (page - 1 : Nat) := (Nat.cast_sub first).symm
  have pages : ((Binary64.ofNat page).sub (.ofNat 1)).value? = some ((page - 1 : Nat) : ℚ) := by
    have exact := Binary64.representable_natCast (by omega : page - 1 ≤ 2 ^ 53)
    rw [← before] at exact ⊢
    exact Binary64.value?_sub (Binary64.value?_ofNat pageBits) (Binary64.value?_ofNat (by decide)) exact
  have exact := Binary64.representable_natCast offsetBits
  rw [Nat.cast_mul] at exact ⊢
  exact Binary64.value?_mul pages (Binary64.value?_ofNat limitBits) exact

/-- Where a page and a limit are given, each in one of the ways there are, and neither they nor the number
of results before the page exceed `2 ^ 53`, there is a pagination, its window has the limit and that
number, and it is written with both in decimal digits. -/
theorem page_is_exact {settings : Settings} {parameters : Parameters} {page limit : Nat}
    (first : 1 ≤ page) (pageBits : page ≤ 2 ^ 53) (limitBits : limit ≤ 2 ^ 53)
    (offsetBits : (page - 1) * limit ≤ 2 ^ 53)
    (pageGiven : Gives parameters settings.pageKey settings.defaultPage page)
    (limitGiven : Gives parameters settings.limitKey settings.defaultLimit limit) :
    ∃ pagination, ofParameters settings parameters = some pagination ∧
      pagination.window? = some (limit, (page - 1) * limit) ∧
      pagination.toJson.compact = plainText limit ((page - 1) * limit) := by
  have found : ofParameters settings parameters = some (ofPage (.ofNat page) (.ofNat limit)) := by
    unfold ofParameters
    simp only [if_neg (scalar?_ne_null_of_gives limitGiven), number_of_gives pageGiven,
      number_of_gives limitGiven]
  have word : ∀ {n : Nat}, n ≤ 2 ^ 53 → n < 2 ^ 63 ∧ n < 2 ^ 64 := by omega
  have limits : (Binary64.ofNat limit).CountsAs limit :=
    Or.inl ⟨Binary64.value?_ofNat limitBits, (word limitBits).2⟩
  have offsets : (ofPage (.ofNat page) (.ofNat limit)).offset.CountsAs ((page - 1) * limit) :=
    Or.inl ⟨value?_offset_ofPage first pageBits limitBits offsetBits, (word offsetBits).2⟩
  refine ⟨_, found, window?_eq_some_iff.mpr ⟨limits, offsets⟩, ?_⟩
  rw [compact_toJson_eq_plainText_iff]
  exact ⟨(numberText_eq_natural_iff limits).mpr (word limitBits).1,
    (numberText_eq_natural_iff offsets).mpr (word offsetBits).1⟩

/-- A page from a JSON object and a limit between blanks, at the last number before rounding begins. -/
theorem page_is_exact_last :
    let members := [("page", Json.integer (2 ^ 52 + 1)), ("limit", .string "\u3000+02\n")]
    ∃ parameters pagination, Parameters.ofJson (.object members) = .ok parameters ∧
      ofParameters .builtin parameters = some pagination ∧
      pagination.window? = some (2, 2 ^ 53) ∧
      pagination.toJson.compact = "\x7b\"limit\":2,\"offset\":9007199254740992\x7d" := by
  intro members
  let parameters := Parameters.ofPairs [("page", "4503599627370497"), ("limit", "\u3000+02\n")]
  have read : Parameters.ofJson (.object members) = .ok parameters := by decide +kernel
  have limit : SpellsWhole "\u3000+02\n" 2 :=
    ⟨['\u3000'], ['+'], 1, ['\n'], by decide, List.forall_mem_singleton.mpr (by decide), Or.inr rfl,
      List.forall_mem_singleton.mpr (by decide)⟩
  obtain ⟨pagination, found, window, written⟩ := @page_is_exact .builtin parameters (2 ^ 52 + 1) 2
    (by decide) (by decide) (by decide) (by decide) (.json read rfl)
    (.text (by decide +kernel) limit)
  exact ⟨parameters, pagination, read, found, window, written⟩

end DocumentQuery.Pagination
