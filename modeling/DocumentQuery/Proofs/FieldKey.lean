import DocumentQuery.Proofs.Query.Separation
import DocumentQuery.Proofs.Text.Split

/-!
Keys and what they are read as.

The segment after the last point of a key decides. When it is the tag of an operator, the key is read as
what stands before that point, with the operator, whatever points and tags there are in it; otherwise
the key is a field as a whole, compared with `eq` (`FieldKey.ofString_of_no_tag`). So a key of the second
kind asks for the same when `.eq` is put behind it (`Query.ofParameters_rename`). Both together are
`FieldKey.tag_after_last_point`.
-/

namespace DocumentQuery

namespace FieldKey

/-! ## The last segment -/

/-- What stands after the last point of a key; a key without a point is one segment. -/
def lastSegment (key : String) : String :=
  (Text.pieces '.' key).getLast (Text.pieces_ne_nil '.' key)

theorem lastSegment_of_no_point {key : String} (whole : '.' ∉ key.toList) : lastSegment key = key := by
  unfold lastSegment
  simp only [Text.pieces_of_not_mem whole, List.getLast_singleton]

theorem lastSegment_append {last : String} (whole : '.' ∉ last.toList) (front : String) :
    lastSegment (front ++ "." ++ last) = last := by
  have parts : (front ++ "." ++ last).toList = front.toList ++ '.' :: last.toList := by simp
  have pieces : Text.pieces '.' (front ++ "." ++ last) = Text.pieces '.' front ++ [last] := by
    rw [Text.pieces, parts, Text.split_append_separator, Text.split_of_not_mem whole, List.map_append,
      List.map_singleton, String.ofList_toList, Text.pieces]
  unfold lastSegment
  simp only [pieces, List.getLast_append_singleton]

/-- A key is one segment, or has its last segment behind a point. -/
theorem exists_front_of_lastSegment (key : String) :
    ('.' ∉ key.toList ∧ lastSegment key = key) ∨
      ∃ front last, key = front ++ "." ++ last ∧ '.' ∉ last.toList ∧ lastSegment key = last := by
  by_cases point : '.' ∈ key.toList
  · obtain ⟨front, last, parts, whole⟩ := Text.exists_last_separator point
    have split : key = String.ofList front ++ "." ++ String.ofList last := by
      rw [← String.toList_inj, parts]
      simp
    rw [← String.toList_ofList (l := last)] at whole
    exact Or.inr ⟨_, _, split, whole, split ▸ lastSegment_append whole _⟩
  · exact Or.inl ⟨point, lastSegment_of_no_point point⟩

theorem segments_snd (key : String) : (segments key).2 = lastSegment key := by
  rcases exists_front_of_lastSegment key with ⟨whole, same⟩ | ⟨front, last, split, whole, same⟩
  · rw [same, segments_of_no_point whole]
  · rw [same, split, segments_append whole]

/-- The last segment is a tag when the key is the tag, or ends in the tag behind a point. -/
theorem lastSegment_eq_tag_iff {key : String} {operator : Operator} :
    lastSegment key = operator.tag ↔
      key = operator.tag ∨ ∃ field, key = field ++ "." ++ operator.tag := by
  constructor
  · intro last
    rcases exists_front_of_lastSegment key with ⟨_, same⟩ | ⟨front, _, split, _, same⟩
    · exact Or.inl (same.symm.trans last)
    · obtain rfl := same.symm.trans last
      exact Or.inr ⟨front, split⟩
  · rintro (rfl | ⟨field, rfl⟩)
    · exact lastSegment_of_no_point operator.point_not_mem_tag
    · exact lastSegment_append operator.point_not_mem_tag field

/-! ## What a key is read as -/

theorem ofString_append_tag (field : String) (operator : Operator) :
    ofString (field ++ "." ++ operator.tag) = ⟨field, operator⟩ := by
  unfold ofString
  rw [segments_append operator.point_not_mem_tag]
  simp only [Operator.ofTag?_tag]

theorem ofString_append_suffix (field : String) (operator : Operator) {suffix : String}
    (named : suffix = "." ++ operator.tag) :
    ofString (field ++ suffix) = ⟨field, operator⟩ := by
  rw [named, ← String.append_assoc]
  exact ofString_append_tag field operator

theorem ofString_tag (operator : Operator) : ofString operator.tag = ⟨"", operator⟩ := by
  unfold ofString
  rw [segments_of_no_point operator.point_not_mem_tag]
  simp only [Operator.ofTag?_tag]

theorem ofString_of_no_tag {key : String} (plain : ∀ operator : Operator, lastSegment key ≠ operator.tag) :
    ofString key = ⟨key, .eq⟩ := by
  have unknown : Operator.ofTag? (segments key).2 = none := by
    cases found : Operator.ofTag? (segments key).2 with
    | none => rfl
    | some operator =>
      have tag := Operator.tag_of_ofTag? found
      rw [segments_snd] at tag
      exact absurd tag.symm (plain operator)
  unfold ofString
  rw [unknown]

/-- A key that ends in no tag is read like the same key with `.eq` behind it. -/
theorem ofString_append_eq {key : String} (plain : ∀ operator : Operator, lastSegment key ≠ operator.tag) :
    ofString (key ++ ".eq") = ofString key := by
  rw [ofString_of_no_tag plain]
  exact ofString_append_suffix key .eq rfl

end FieldKey

/-! ## Parameters under other names -/

namespace Filter

theorem block_congr {left right : String} (same : FieldKey.ofString left = FieldKey.ofString right)
    (value : RawValue) : block left value = block right value := by
  unfold block
  rw [same]

theorem blocks_rename {settings : Settings} {parameters : Parameters} {old new : String}
    (fresh : new ∉ parameters.keys) (oldFree : settings.reserves old = false)
    (newFree : settings.reserves new = false)
    (same : FieldKey.ofString new = FieldKey.ofString old) :
    blocks settings (parameters.rename old new fresh) = blocks settings parameters := by
  have kept : ∀ entry : String × RawValue,
      settings.reserves (if entry.1 = old then (new, entry.2) else entry).1 =
        settings.reserves entry.1 := by
    intro entry
    split
    · next here => rw [here, oldFree, newFree]
    · rfl
  have block : ∀ entry : String × RawValue,
      block (if entry.1 = old then (new, entry.2) else entry).1
        (if entry.1 = old then (new, entry.2) else entry).2 = block entry.1 entry.2 := by
    intro entry
    split
    · next here => rw [here, block_congr same]
    · rfl
  unfold blocks
  rw [Dict.entries_rename, List.filter_map, List.flatMap_map]
  simp only [Function.comp_def, kept, block]

end Filter

namespace Query

/-- A parameter that is read the same under another name asks for the same under that name, if neither
name is reserved. -/
theorem ofParameters_rename {settings : Settings} {parameters : Parameters} {old new : String}
    (fresh : new ∉ parameters.keys) (oldFree : settings.reserves old = false)
    (newFree : settings.reserves new = false)
    (same : FieldKey.ofString new = FieldKey.ofString old) :
    ofParameters settings (parameters.rename old new fresh) = ofParameters settings parameters := by
  have found : ∀ key, settings.reserves key = true →
      (parameters.rename old new fresh).get? key = parameters.get? key := by
    intro key reserved
    apply Dict.get?_rename fresh
    · rintro rfl
      rw [oldFree] at reserved
      cases reserved
    · rintro rfl
      rw [newFree] at reserved
      cases reserved
  obtain ⟨page, limit, sort, connective, fields⟩ := settings.reserves_keys
  unfold ofParameters Filter.ofParameters
  rw [Pagination.ofParameters_congr (found _ page) (found _ limit),
    SortOrder.ofParameters?_congr (found _ sort), Projection.ofParameters?_congr (found _ fields),
    found _ connective, Filter.blocks_rename fresh oldFree newFree same]

end Query

namespace FieldKey

/-- A key that ends in the tag of an operator behind a point is read as what stands before that point and
the operator, a tag by itself as the operator with an empty field, and every other key as a field for
`eq`. So with `.eq` behind it, in the same place among the parameters, a key whose last segment is no tag
asks for the same query, whatever the settings; only the two names must not be reserved, and the new one
must not be there already. -/
theorem tag_after_last_point (key : String) :
    (∀ field operator, key = field ++ "." ++ Operator.tag operator →
        ofString key = ⟨field, operator⟩) ∧
      (∀ operator, key = Operator.tag operator → ofString key = ⟨"", operator⟩) ∧
      ((∀ field operator, key ≠ field ++ "." ++ Operator.tag operator) →
        (∀ operator, key ≠ Operator.tag operator) → ofString key = ⟨key, .eq⟩) ∧
      ((∀ operator : Operator, lastSegment key ≠ operator.tag) →
        ∀ (settings : Settings) (parameters : Parameters) (fresh : key ++ ".eq" ∉ parameters.keys),
          settings.reserves key = false → settings.reserves (key ++ ".eq") = false →
            Query.ofParameters settings (parameters.rename key (key ++ ".eq") fresh) =
              Query.ofParameters settings parameters) := by
  refine ⟨?_, ?_, fun noSuffix noTag => ?_, fun plain settings parameters fresh keyFree eqFree => ?_⟩
  · rintro field operator rfl
    exact ofString_append_tag field operator
  · rintro operator rfl
    exact ofString_tag operator
  · apply ofString_of_no_tag
    intro operator last
    rcases lastSegment_eq_tag_iff.mp last with tag | ⟨field, suffix⟩
    · exact noTag operator tag
    · exact noSuffix field operator suffix
  · exact Query.ofParameters_rename fresh keyFree eqFree (ofString_append_eq plain)

/-- A field that ends in a tag, a tag by itself, and a key with a tag in the middle and another case at the
end, which is renamed between a connective and a page. -/
theorem tag_after_last_point_renamed :
    let parameters := Parameters.ofPairs
      [("_op", "or"), ("a.in.EQ", "x"), ("eqDate", "2024-02-29"), ("a.in.EQ", "null"), ("page", "2")]
    ∃ fresh : "a.in.EQ.eq" ∉ parameters.keys,
      ofString "a..eq.eqInt" = ⟨"a..eq", .eqInt⟩ ∧ ofString "lte" = ⟨"", .lte⟩ ∧
        ofString "a.in.EQ" = ⟨"a.in.EQ", .eq⟩ ∧
        (∀ operator : Operator, lastSegment "a.in.EQ" ≠ operator.tag) ∧
        Settings.builtin.reserves "a.in.EQ" = false ∧
        Settings.builtin.reserves "a.in.EQ.eq" = false ∧
        (parameters.rename "a.in.EQ" "a.in.EQ.eq" fresh).keys =
          ["_op", "a.in.EQ.eq", "eqDate", "page"] ∧
        Query.ofParameters .builtin (parameters.rename "a.in.EQ" "a.in.EQ.eq" fresh) =
          Query.ofParameters .builtin parameters := by
  intro parameters
  have fresh : "a.in.EQ.eq" ∉ parameters.keys := by decide
  have plain : ∀ operator : Operator, lastSegment "a.in.EQ" ≠ operator.tag := by
    intro operator
    cases operator <;> decide
  have keyFree : Settings.builtin.reserves "a.in.EQ" = false := by decide
  have eqFree : Settings.builtin.reserves "a.in.EQ.eq" = false := by decide
  obtain ⟨_, _, whole, renamed⟩ := tag_after_last_point "a.in.EQ"
  refine ⟨fresh, (tag_after_last_point "a..eq.eqInt").1 "a..eq" .eqInt (by decide),
    (tag_after_last_point "lte").2.1 .lte rfl, whole ?_ ?_, plain, keyFree, eqFree, rfl,
    renamed plain .builtin parameters fresh keyFree eqFree⟩
  · intro field operator suffix
    exact plain operator (lastSegment_eq_tag_iff.mpr (Or.inr ⟨field, suffix⟩))
  · intro operator tag
    exact plain operator (lastSegment_eq_tag_iff.mpr (Or.inl tag))

end FieldKey

end DocumentQuery
