import DocumentQuery.Text.Split

/-!
The pieces of a text.

The pieces of a text are determined by what they are: none has a separator in it, and joined they are
the text (`pieces_joined` with `joined_pieces`). There is one more of them than there are separators
(`length_pieces`), and a text that is cut at one of its separators has the pieces of both parts
(`split_append_separator`).
-/

namespace DocumentQuery.Text

variable {separator : Char}

/-! ## Lists of characters -/

theorem length_split (separator : Char) (text : List Char) :
    (split separator text).length = text.count separator + 1 := by
  induction text with
  | nil => rfl
  | cons c text ih =>
    by_cases here : c = separator
    · subst here
      rw [split_separator, List.length_cons, ih, List.count_cons_self]
    · cases tail : split separator text with
      | nil => exact absurd tail (split_ne_nil _ _)
      | cons piece pieces =>
        rw [tail] at ih
        rw [split_cons_of_ne here tail, List.count_cons_of_ne here, ← ih]
        rfl

theorem not_mem_of_mem_split {text : List Char} :
    ∀ piece ∈ split separator text, separator ∉ piece := by
  induction text with
  | nil =>
    intro piece member
    rw [List.mem_singleton.mp member]
    exact List.not_mem_nil
  | cons c text ih =>
    by_cases here : c = separator
    · subst here
      rw [split_separator]
      exact List.forall_mem_cons.mpr ⟨List.not_mem_nil, ih⟩
    · cases tail : split separator text with
      | nil => exact absurd tail (split_ne_nil _ _)
      | cons piece pieces =>
        rw [tail] at ih
        obtain ⟨first, others⟩ := List.forall_mem_cons.mp ih
        rw [split_cons_of_ne here tail]
        refine List.forall_mem_cons.mpr ⟨?_, others⟩
        rw [List.mem_cons, not_or]
        exact ⟨Ne.symm here, first⟩

theorem split_append_separator (front last : List Char) :
    split separator (front ++ separator :: last) =
      split separator front ++ split separator last := by
  induction front with
  | nil => rw [List.nil_append, split_separator, split_nil, List.singleton_append]
  | cons c front ih =>
    rw [List.cons_append]
    by_cases here : c = separator
    · subst here
      rw [split_separator, split_separator, ih, List.cons_append]
    · cases tail : split separator front with
      | nil => exact absurd tail (split_ne_nil _ _)
      | cons piece pieces =>
        rw [tail, List.cons_append] at ih
        rw [split_cons_of_ne here ih, split_cons_of_ne here tail, List.cons_append]

/-- A text with a separator in it has a last one. -/
theorem exists_last_separator {text : List Char} (member : separator ∈ text) :
    ∃ front last, text = front ++ separator :: last ∧ separator ∉ last := by
  obtain ⟨last, front, backwards, fresh⟩ :=
    List.eq_append_cons_of_mem (List.mem_reverse.mpr member)
  refine ⟨front.reverse, last.reverse, ?_, fun inside => fresh (List.mem_reverse.mp inside)⟩
  rw [← List.reverse_reverse text, backwards, List.reverse_append, List.reverse_cons,
    List.append_assoc, List.singleton_append]

theorem join_eq_intercalate (separator : Char) (pieces : List (List Char)) :
    join separator pieces = [separator].intercalate pieces := by
  induction pieces with
  | nil => rfl
  | cons piece pieces ih =>
    cases pieces with
    | nil => simp [join]
    | cons next pieces => simp [join, ih]

/-! ## Strings -/

theorem joined_eq_intercalate (separator : Char) (texts : List String) :
    joined separator texts = (String.singleton separator).intercalate texts := by
  rw [← String.toList_inj, joined, String.toList_ofList, join_eq_intercalate,
    String.toList_intercalate, String.toList_singleton]

theorem intercalate_comma (texts : List String) : ",".intercalate texts = joined ',' texts :=
  (joined_eq_intercalate ',' texts).symm

theorem length_pieces (separator : Char) (text : String) :
    (pieces separator text).length = text.toList.count separator + 1 := by
  rw [pieces, List.length_map, length_split]

theorem not_mem_of_mem_pieces {text piece : String} (member : piece ∈ pieces separator text) :
    separator ∉ piece.toList := by
  obtain ⟨characters, inside, rfl⟩ := List.mem_map.mp member
  rw [String.toList_ofList]
  exact not_mem_of_mem_split characters inside

/-- Texts without a separator in them are the pieces of the text that they are joined to. -/
theorem pieces_joined {texts : List String} (nonempty : texts ≠ [])
    (whole : ∀ text ∈ texts, separator ∉ text.toList) :
    pieces separator (joined separator texts) = texts := by
  have apart : ∀ piece ∈ texts.map String.toList, separator ∉ piece := by
    intro piece member
    obtain ⟨text, inside, rfl⟩ := List.mem_map.mp member
    exact whole text inside
  have some : texts.map String.toList ≠ [] := by simpa using nonempty
  have same : String.ofList ∘ String.toList = id := by
    funext text
    exact String.ofList_toList
  rw [pieces, joined, String.toList_ofList, split_join some apart, List.map_map, same, List.map_id]

theorem pieces_of_not_mem {text : String} (whole : separator ∉ text.toList) :
    pieces separator text = [text] := by
  rw [pieces, split_of_not_mem whole, List.map_singleton, String.ofList_toList]

end DocumentQuery.Text
