import Mathlib.Data.List.Forall2

/-!
Lists that correspond item by item.

A list corresponds to some other list when each of its items corresponds to something
(`exists_forall₂_iff`), and reading a list item by item gives the list of what the items are read as
(`mapM_eq_some_iff`), which is the list of their meanings where each can only be read as its meaning
(`eq_map_of_mapM_eq_some`).
-/

namespace DocumentQuery

variable {α β : Type}

theorem exists_forall₂_iff {related : α → β → Prop} {items : List α} :
    (∃ results, List.Forall₂ related items results) ↔ ∀ item ∈ items, ∃ result, related item result := by
  induction items with
  | nil => exact iff_of_true ⟨[], .nil⟩ (List.forall_mem_nil _)
  | cons item items ih =>
    rw [List.forall_mem_cons, ← ih]
    constructor
    · rintro ⟨_, all⟩
      obtain ⟨result, results, first, rest, _⟩ := List.forall₂_cons_left_iff.mp all
      exact ⟨⟨result, first⟩, results, rest⟩
    · rintro ⟨⟨result, first⟩, results, rest⟩
      exact ⟨result :: results, .cons first rest⟩

theorem mapM_eq_some_iff {read : α → Option β} {items : List α} {results : List β} :
    items.mapM read = some results ↔
      List.Forall₂ (fun item result => read item = some result) items results := by
  induction items generalizing results with
  | nil => simp [eq_comm]
  | cons item items ih =>
    rw [List.mapM_cons, List.forall₂_cons_left_iff]
    simp only [Option.bind_eq_bind, Option.bind_eq_some_iff, Option.pure_def, Option.some.injEq, ih]
    constructor
    · rintro ⟨result, first, rest, others, rfl⟩
      exact ⟨result, rest, first, others, rfl⟩
    · rintro ⟨result, rest, first, others, rfl⟩
      exact ⟨result, first, rest, others, rfl⟩

theorem eq_map_of_mapM_eq_some {read : α → Option β} {meaning : α → β}
    (reads : ∀ item result, read item = some result → result = meaning item) {items : List α}
    {results : List β} (all : items.mapM read = some results) : results = items.map meaning := by
  have pairs := (mapM_eq_some_iff.mp all).imp reads
  rw [← List.forall₂_eq_eq_eq, List.forall₂_map_right_iff]
  exact pairs.flip

end DocumentQuery
