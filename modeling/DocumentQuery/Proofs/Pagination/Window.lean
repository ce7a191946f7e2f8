import DocumentQuery.Pagination.Basic
import DocumentQuery.Proofs.Binary64.Value

/-!
The whole numbers of a pagination.

Limit and offset are given as whole numbers exactly where their values are whole, not negative and
less than `2 ^ 64` (`Pagination.window?_exact`). One value above these is let through: `2 ^ 64` itself,
to which the greatest whole number of 64 bits is rounded, is given as that number, which it is not.
-/

namespace DocumentQuery

/-- Whether a number is taken for a whole number of 64 bits: it has this value, or it is the one value
that is taken for another. -/
def Binary64.CountsAs (x : Binary64) (word : Nat) : Prop :=
  (x.value? = some (word : ℚ) ∧ word < 2 ^ 64) ∨
    (x.value? = some ((2 ^ 64 : Nat) : ℚ) ∧ word = 2 ^ 64 - 1)

namespace Pagination

/-! ## One number -/

theorem value?_eq_natCast_iff {x : Binary64} {n : Nat} :
    x.value? = some (n : ℚ) ↔ x.toInt? = some (n : Int) := by
  rw [Binary64.toInt?_eq_some_iff, Int.cast_natCast]

theorem word?_eq_some_iff {x : Binary64} {word : Nat} : word? x = some word ↔ x.CountsAs word := by
  unfold Binary64.CountsAs word?
  rw [value?_eq_natCast_iff, value?_eq_natCast_iff]
  cases whole : x.toInt? with
  | none => simp
  | some n =>
    simp only [Option.some.injEq]
    split
    · next within =>
      rw [Option.some.injEq]
      omega
    · next outside =>
      refine iff_of_false nofun ?_
      omega

/-- Away from `2 ^ 64` a number is taken for its value and for nothing else. -/
theorem countsAs_iff {x : Binary64} (other : x.value? ≠ some ((2 ^ 64 : Nat) : ℚ)) (word : Nat) :
    x.CountsAs word ↔ x.value? = some (word : ℚ) ∧ word < 2 ^ 64 :=
  or_iff_left fun exception => other exception.1

/-! ## Both numbers -/

theorem window?_eq_some_iff {pagination : Pagination} {limit offset : Nat} :
    pagination.window? = some (limit, offset) ↔
      pagination.limit.CountsAs limit ∧ pagination.offset.CountsAs offset := by
  unfold window?
  simp only [Option.bind_eq_bind, Option.bind_eq_some_iff, Option.some.injEq, Prod.mk.injEq,
    word?_eq_some_iff]
  constructor
  · rintro ⟨_, limits, _, offsets, rfl, rfl⟩
    exact ⟨limits, offsets⟩
  · rintro ⟨limits, offsets⟩
    exact ⟨limit, limits, offset, offsets, rfl, rfl⟩

/-- Whatever the two numbers of a pagination are, it has a window exactly when the values of both are
whole numbers of 64 bits without sign, and the window is these values, unless one of them is `2 ^ 64`.
That value is let through as well, and given as `2 ^ 64 - 1`: the bound is off by one. -/
theorem window?_exact (pagination : Pagination) (limit offset : Nat) :
    (pagination.limit.value? ≠ some ((2 ^ 64 : Nat) : ℚ) →
      pagination.offset.value? ≠ some ((2 ^ 64 : Nat) : ℚ) →
        (pagination.window? = some (limit, offset) ↔
          (pagination.limit.value? = some (limit : ℚ) ∧ limit < 2 ^ 64) ∧
            pagination.offset.value? = some (offset : ℚ) ∧ offset < 2 ^ 64)) ∧
      (pagination.window? = some (limit, offset) ↔
        pagination.limit.CountsAs limit ∧ pagination.offset.CountsAs offset) := by
  refine ⟨fun limits offsets => ?_, window?_eq_some_iff⟩
  rw [window?_eq_some_iff, countsAs_iff limits, countsAs_iff offsets]

example : (Pagination.mk (.ofNat (2 ^ 64)) (.zero false)).window? = some (2 ^ 64 - 1, 0) := by
  decide +kernel

end Pagination

end DocumentQuery
