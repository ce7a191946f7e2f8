import DocumentQuery.Proofs.Operand.Dates

/-!
Recognisers and their order.

No two recognisers accept the same text (`Recogniser.pairwise_excludes_all`), so whichever of them is
asked first, a text is recognised as the same operand (`Operand.order_never_decides`).
-/

namespace DocumentQuery

/-! ## A search in another order -/

theorem countP_le_one_of_pairwise {α : Type} {accepts : α → Bool} {items : List α}
    (exclusive : items.Pairwise fun left right => accepts left = false ∨ accepts right = false) :
    items.countP accepts ≤ 1 := by
  induction exclusive with
  | nil => exact Nat.zero_le 1
  | @cons item items others _ ih =>
    cases accepted : accepts item with
    | false => rwa [List.countP_cons_of_neg (by simp [accepted])]
    | true =>
      have none : items.countP accepts = 0 := by
        refine List.countP_eq_zero.mpr fun other member => ?_
        rcases others other member with no | no
        · rw [accepted] at no
          cases no
        · simp [no]
      have one : (item :: items).countP accepts = 1 := by
        rw [List.countP_cons_of_pos accepted, none]
      exact Nat.le_of_eq one

/-- The first result does not depend on the order where there is only one. -/
theorem findSome?_eq_of_perm {α β : Type} {read : α → Option β} {left right : List α}
    (perm : left.Perm right) (once : right.countP (fun item => (read item).isSome) ≤ 1) :
    left.findSome? read = right.findSome? read := by
  have results := perm.filterMap read
  rw [← List.length_filterMap_eq_countP] at once
  rw [← List.head?_filterMap, ← List.head?_filterMap]
  match found : right.filterMap read, once with
  | [], _ =>
    rw [found, List.perm_nil] at results
    rw [results]
  | [result], _ =>
    rw [found, List.perm_singleton] at results
    rw [results]

/-! ## Recognisers -/

namespace Recogniser

/-- Two recognisers that accept no text in common. -/
def Excludes (left right : Recogniser) : Prop :=
  ∀ text, left.accept text = none ∨ right.accept text = none

theorem null_excludes {other : Recogniser} (refuses : other.accept "null" = none) :
    Excludes null other := by
  intro text
  by_cases isNull : text = "null"
  · exact Or.inr (isNull ▸ refuses)
  · exact Or.inl (if_neg isNull)

theorem boolean_excludes {other : Recogniser} (refusesTrue : other.accept "true" = none)
    (refusesFalse : other.accept "false" = none) : Excludes boolean other := by
  intro text
  by_cases isTrue : text = "true"
  · exact Or.inr (isTrue ▸ refusesTrue)
  by_cases isFalse : text = "false"
  · exact Or.inr (isFalse ▸ refusesFalse)
  · exact Or.inl ((if_neg isTrue).trans (if_neg isFalse))

/-- A timestamp goes on where a date has ended. -/
theorem timestamp_excludes_date : Excludes timestamp date := by
  intro text
  cases read : Date.read? text.toList with
  | none => exact Or.inr (Option.map_eq_none_iff.mpr read)
  | some day =>
    obtain ⟨fourDigits, written⟩ := Date.read?_eq_some_iff.mp read
    have noTime : Timestamp.read? text.toList = none := by
      rw [written, Timestamp.read?_dateText fourDigits]
    exact Or.inl (Option.map_eq_none_iff.mpr noTime)

theorem pairwise_excludes_all : all.Pairwise Excludes := by
  simp only [all, List.pairwise_cons, List.forall_mem_cons, List.not_mem_nil, IsEmpty.forall_iff,
    implies_true, and_true, List.Pairwise.nil]
  exact ⟨⟨null_excludes rfl, null_excludes rfl, null_excludes rfl⟩,
    ⟨boolean_excludes rfl rfl, boolean_excludes rfl rfl⟩, timestamp_excludes_date⟩

theorem countP_accept_le_one (text : String) :
    all.countP (fun recogniser => (recogniser.accept text).isSome) ≤ 1 := by
  refine countP_le_one_of_pairwise (pairwise_excludes_all.imp fun excludes => ?_)
  simpa only [Option.isSome_eq_false_iff, Option.isNone_iff_eq_none] using excludes text

end Recogniser

namespace Operand

/-- At most one recogniser accepts a text, and in whatever order they are tried, the text is
recognised as the same operand. -/
theorem order_never_decides (text : String) :
    Recogniser.all.countP (fun recogniser => (recogniser.accept text).isSome) ≤ 1 ∧
      ∀ recognisers : List Recogniser, recognisers.Perm Recogniser.all →
        recognise recognisers text = ofText text := by
  refine ⟨Recogniser.countP_accept_le_one text, fun recognisers perm => ?_⟩
  rw [ofText, recognise, recognise,
    findSome?_eq_of_perm perm (Recogniser.countP_accept_le_one text)]

/-- The recognisers from the last to the first, on a date. -/
theorem order_never_decides_backwards :
    Recogniser.all.reverse.Perm Recogniser.all ∧
      recognise Recogniser.all.reverse "1970-01-02" = .date (.ofDay 1) := by
  obtain ⟨_, same⟩ := order_never_decides "1970-01-02"
  refine ⟨List.reverse_perm _, ?_⟩
  rw [same _ (List.reverse_perm _)]
  decide +kernel

end Operand

end DocumentQuery
