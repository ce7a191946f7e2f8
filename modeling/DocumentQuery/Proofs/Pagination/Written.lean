import DocumentQuery.Proofs.Json.FloatText
import DocumentQuery.Proofs.Pagination.Window
import Mathlib.Data.List.Basic

/-!
Paginations as JSON.

A pagination has two views: its window and its JSON text. They agree on whole numbers below `2 ^ 63`, which
both give in decimal digits (`Pagination.toJson_plain_iff`). From there to `2 ^ 64` there is a window, but
the text has the binary64 number, with a point or an exponent.
-/

namespace DocumentQuery

/-! ## Paginations as text -/

namespace Pagination

/-- The text of a number in a pagination. -/
def numberText (x : Binary64) : List Char :=
  Json.write .compact 1 (numberToJson x)

/-- A number that is taken for a whole one is written in its digits below `2 ^ 63`, and nowhere else. -/
theorem numberText_eq_natural_iff {x : Binary64} {word : Nat} (counts : x.CountsAs word) :
    numberText x = Text.natural word ↔ word < 2 ^ 63 := by
  unfold numberText
  obtain ⟨n, whole, small, large⟩ : ∃ n : Nat, x.toInt? = some (n : Int) ∧
      (n < 2 ^ 63 → n = word) ∧ (n < 2 ^ 63 ↔ word < 2 ^ 63) := by
    rcases counts with ⟨value, _⟩ | ⟨value, last⟩
    · exact ⟨word, value?_eq_natCast_iff.mp value, fun _ => rfl, Iff.rfl⟩
    · exact ⟨2 ^ 64, value?_eq_natCast_iff.mp value, by omega, by omega⟩
  rw [numberToJson, whole]
  simp only [Int.natAbs_natCast, ← large]
  split
  · next below =>
    refine iff_of_true ?_ below
    rw [Json.write, Text.integer, if_neg (by omega), Int.natAbs_natCast, small below]
  · next beyond =>
    refine iff_of_false (fun same => ?_) beyond
    rw [Json.write] at same
    have digits := Text.isDigits_natural word
    rw [← same, Json.isDigits_floatText] at digits
    cases digits

/-- A limit and an offset in decimal digits, as JSON without spaces. -/
def plainText (limit offset : Nat) : String :=
  "\x7b\"limit\":" ++ toString limit ++ ",\"offset\":" ++ toString offset ++ "\x7d"

theorem toList_compact_toJson (pagination : Pagination) : pagination.toJson.compact.toList =
    "\x7b\"limit\":".toList ++ (numberText pagination.limit ++
      ',' :: ("\"offset\":".toList ++ (numberText pagination.offset ++ ['\x7d']))) := by
  have limit : Json.quoted "limit".toList = "\"limit\"".toList := by decide
  have offset : Json.quoted "offset".toList = "\"offset\"".toList := by decide
  unfold toJson Json.compact
  rw [String.toList_ofList, Json.write, Json.writeMembers, Json.writeMembers, limit, offset]
  simp [Json.Layout.compact, numberText]

theorem toList_plainText (limit offset : Nat) : (plainText limit offset).toList =
    "\x7b\"limit\":".toList ++ (Text.natural limit ++
      ',' :: ("\"offset\":".toList ++ (Text.natural offset ++ ['\x7d']))) := by
  unfold plainText
  simp [Text.natural]

theorem compact_toJson_eq_plainText_iff (pagination : Pagination) (limit offset : Nat) :
    pagination.toJson.compact = plainText limit offset ↔
      numberText pagination.limit = Text.natural limit ∧
        numberText pagination.offset = Text.natural offset := by
  have noComma : ∀ n, ',' ∉ Text.natural n := fun n member => by
    cases Text.isDigit_of_mem_natural member
  have noComma' : ',' ∉ "\"offset\":".toList ++ (Text.natural offset ++ ['\x7d']) := by
    rw [List.mem_append, List.mem_append]
    rintro (name | digits | last)
    · exact absurd name (by decide)
    · exact noComma offset digits
    · exact absurd last (by decide)
  -- the first comma of the plain text is its only one
  rw [← String.toList_inj, toList_compact_toJson, toList_plainText, List.append_cancel_left_eq, eq_comm,
    List.append_cons_inj_of_notMem (noComma limit) noComma', List.append_cancel_left_eq,
    List.append_cancel_right_eq, eq_comm, eq_comm (a := Text.natural offset)]
  simp only [true_and]

/-- A pagination that has a window is written with the two numbers of the window in decimal digits exactly
when both are less than `2 ^ 63`, though a window has greater ones. -/
theorem toJson_plain_iff {pagination : Pagination} {limit offset : Nat}
    (window : pagination.window? = some (limit, offset)) :
    pagination.toJson.compact = plainText limit offset ↔ limit < 2 ^ 63 ∧ offset < 2 ^ 63 := by
  obtain ⟨limits, offsets⟩ := window?_eq_some_iff.mp window
  rw [compact_toJson_eq_plainText_iff, numberText_eq_natural_iff limits, numberText_eq_natural_iff offsets]

/-- The least number that a window has and the text does not. -/
theorem toJson_plain_iff_least :
    let pagination := Pagination.mk (.ofNat (2 ^ 63)) (.zero false)
    pagination.window? = some (2 ^ 63, 0) ∧ pagination.toJson.compact ≠ plainText (2 ^ 63) 0 ∧
      pagination.toJson.compact = "\x7b\"limit\":9.223372036854776e+18,\"offset\":0\x7d" := by
  intro pagination
  have window : pagination.window? = some (2 ^ 63, 0) := by decide +kernel
  refine ⟨window, fun plain => ?_, by decide +kernel⟩
  exact absurd ((toJson_plain_iff window).mp plain).1 (Nat.lt_irrefl _)

end Pagination

end DocumentQuery
