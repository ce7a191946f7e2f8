import DocumentQuery.Proofs.Dict
import DocumentQuery.Proofs.SortOrder.Term
import Mathlib.Data.List.Forall2

/-!
Sort orders from lists of terms.

A sort order has each field of its terms once, at the place of the first term with that field and with
the direction of the last. Terms that are written out of a list of different fields, each with a
direction, give that list back (`SortTerm.map_parse_of_writes`). Both together are
`SortOrder.each_field_once`.
-/

namespace DocumentQuery

/-! ## Written terms -/

namespace SortTerm

/-- Whether a text can stand for a field in front of a direction. -/
structure IsField (field : String) : Prop where
  nonempty : field ≠ ""
  noComma : ',' ∉ field.toList
  oneLine : '\n' ∉ field.toList
  trimmed : Text.trim field.toList = field.toList

/-- Whether a term is a field, a blank and the word for a direction, with any blanks around. -/
def Writes (term : List Char) (entry : String × Direction) : Prop :=
  IsField entry.1 ∧
    ∃ before blank word after, term = before ++ ((entry.1.toList ++ blank :: word) ++ after) ∧
      (∀ c ∈ before, Text.isBlank c = true) ∧ Text.isBlank blank = true ∧
      entry.2.IsNamedBy word ∧ ∀ c ∈ after, Text.isBlank c = true

variable {term : List Char} {entry : String × Direction}

theorem trim_of_isCut {text front word : List Char} {direction : Direction}
    (cut : IsCut text front word) (nonempty : front ≠ []) (trimmed : Text.trim front = front)
    (named : direction.IsNamedBy word) : Text.trim text = text := by
  obtain ⟨blank, _, rfl⟩ := cut
  have whole := Direction.isBlank_of_ofWord? named.ofWord?
  cases front with
  | nil => exact absurd rfl nonempty
  | cons c front =>
    rcases List.eq_nil_or_concat word with rfl | ⟨start, last, rfl⟩
    · cases direction <;> cases named
    · have ends := Text.trim_of_ends (front ++ blank :: start) (Text.not_blank_of_trim_eq trimmed)
        (whole last (by simp))
      simpa using ends

theorem parse_of_writes (writes : Writes term entry) : parse (String.ofList term) = entry := by
  obtain ⟨field, before, blank, word, after, rfl, front, isBlank, named, back⟩ := writes
  have nonempty : entry.1.toList ≠ [] := by
    intro empty
    exact field.nonempty (String.toList_eq_nil_iff.mp empty)
  have cut : IsCut (entry.1.toList ++ blank :: word) entry.1.toList word := ⟨blank, isBlank, rfl⟩
  have whole := trim_of_isCut cut nonempty field.trimmed named
  have text : Text.trim (String.ofList
      (before ++ ((entry.1.toList ++ blank :: word) ++ after))).toList =
      entry.1.toList ++ blank :: word := by
    rw [String.toList_ofList, Text.trim_append front back, whole]
  rw [← text] at cut
  rw [parse_of_isCut cut named.ofWord? field.oneLine, field.trimmed, String.ofList_toList]

theorem comma_not_mem_of_writes (writes : Writes term entry) : ',' ∉ term := by
  obtain ⟨field, before, blank, word, after, rfl, front, isBlank, named, back⟩ := writes
  have notBlank : Text.isBlank ',' = false := by decide
  have other : ∀ c, Text.isBlank c = true → ',' ≠ c := by
    rintro c blank rfl
    rw [notBlank] at blank
    cases blank
  have noLetter : ∀ direction : Direction, ','.toLower ∉ direction.word := by
    intro direction
    cases direction <;> decide
  have letters : ',' ∉ word := fun member => noLetter _ (named.toLower_mem member)
  simp only [List.mem_append, List.mem_cons, not_or]
  exact ⟨fun member => other _ (front _ member) rfl, ⟨field.noComma, other _ isBlank, letters⟩,
    fun member => other _ (back _ member) rfl⟩

/-- Terms that are written out of fields and directions, with commas between them, are read as these
fields and directions. -/
theorem map_parse_of_writes {terms : List (List Char)} {entries : List (String × Direction)}
    (nonempty : entries ≠ []) (writes : List.Forall₂ Writes terms entries) :
    (Text.pieces ',' (String.ofList (Text.join ',' terms))).map parse = entries := by
  have each : List.Forall₂ (fun term entry => ',' ∉ term ∧ parse (String.ofList term) = entry)
      terms entries :=
    writes.imp fun _ _ written => ⟨comma_not_mem_of_writes written, parse_of_writes written⟩
  obtain ⟨noComma, read⟩ := (List.forall₂_and_left terms entries).mp each
  have some : terms ≠ [] := by
    rintro rfl
    exact nonempty (List.forall₂_nil_left_iff.mp writes)
  have all : terms.map (parse ∘ String.ofList) = entries := by
    rw [← List.forall₂_eq_eq_eq, List.forall₂_map_left_iff]
    exact read
  rw [Text.pieces, String.toList_ofList, Text.split_join some noComma, List.map_map, all]

end SortTerm

namespace SortOrder

/-- The sort order of a request that gives a text for it. -/
theorem ofParameters?_of_scalar? {settings : Settings} {parameters : Parameters} {text : String}
    (given : parameters.scalar? settings.sortKey = some text) (nonempty : text ≠ "") :
    ofParameters? settings parameters =
      some (ofTerms ((Text.pieces ',' text).map SortTerm.parse)) := by
  unfold ofParameters?
  rw [given]
  exact if_neg nonempty

/-- Wherever a request gives a text for its sort order, the sort order has the fields of the terms between
the commas, each once, where it came first, and with the direction with which it came last. So fields
that are written with their directions, each field once, come back as they were, however the words for
the directions are spelled and whatever blanks stand around. -/
theorem each_field_once (settings : Settings) (parameters : Parameters) :
    (∀ text, parameters.scalar? settings.sortKey = some text → text ≠ "" →
      ∃ order, ofParameters? settings parameters = some order ∧
        order.keys = ((Text.pieces ',' text).map fun term => (SortTerm.parse term).1).eraseDups ∧
        order.keys.Nodup ∧
        ∀ field direction, (field, direction) ∈ order.entries ↔
          ∃ before after, (Text.pieces ',' text).map SortTerm.parse =
              before ++ (field, direction) :: after ∧ field ∉ after.map Prod.fst) ∧
      ∀ (entries : List (String × Direction)) (terms : List (List Char)), entries ≠ [] →
        (entries.map Prod.fst).Nodup → List.Forall₂ SortTerm.Writes terms entries →
        parameters.scalar? settings.sortKey = some (String.ofList (Text.join ',' terms)) →
        ∃ order, ofParameters? settings parameters = some order ∧ order.entries = entries := by
  constructor
  · intro text given nonempty
    refine ⟨_, ofParameters?_of_scalar? given nonempty, ?_, Dict.nodup _, fun field direction => ?_⟩
    · rw [ofTerms, Dict.keys_ofList, List.map_map]
      rfl
    · rw [← Dict.get?_eq_some_iff]
      exact Dict.get?_ofList_eq_some_iff
  · intro entries terms nonempty distinct writes given
    have read := SortTerm.map_parse_of_writes nonempty writes
    have text : String.ofList (Text.join ',' terms) ≠ "" := by
      intro empty
      rw [empty] at read
      obtain rfl : [("", Direction.ascending)] = entries := read
      obtain ⟨_, _, written, _⟩ := List.forall₂_cons_right_iff.mp writes
      exact written.1.nonempty rfl
    refine ⟨_, ofParameters?_of_scalar? given text, ?_⟩
    rw [read]
    exact Dict.entries_ofList distinct

/-- A field that comes again, and a field that ends in the word for a direction. -/
theorem each_field_once_again :
    let again := Parameters.ofPairs [("sort", "a, b DESC"), ("page", "2"), ("sort", "a DESC")]
    let entries : List (String × Direction) := [("price DESC", .ascending), ("name", .descending)]
    let terms := [" price DESC ASC\n".toList, "\tname desc".toList]
    let written := Parameters.ofPairs [("sort", " price DESC ASC\n,\tname desc")]
    (again.scalar? "sort" = some "a, b DESC,a DESC" ∧
        ∃ order, ofParameters? .builtin again = some order ∧ order.keys = ["a", "b"] ∧
          ("a", .descending) ∈ order.entries) ∧
      entries ≠ [] ∧ (entries.map Prod.fst).Nodup ∧ List.Forall₂ SortTerm.Writes terms entries ∧
        written.scalar? "sort" = some (String.ofList (Text.join ',' terms)) ∧
        ∃ order, ofParameters? .builtin written = some order ∧ order.entries = entries := by
  intro again entries terms written
  have given : again.scalar? Settings.builtin.sortKey = some "a, b DESC,a DESC" := by decide
  obtain ⟨order, found, keys, _, last⟩ := (each_field_once .builtin again).1 _ given (by decide)
  have some : entries ≠ [] := by decide
  have distinct : (entries.map Prod.fst).Nodup := by decide
  have price : SortTerm.IsField "price DESC" := ⟨by decide, by decide, by decide, by decide⟩
  have name : SortTerm.IsField "name" := ⟨by decide, by decide, by decide, by decide⟩
  have space : Text.isBlank ' ' = true := by decide
  have tab : ∀ c ∈ ['\t'], Text.isBlank c = true := List.forall_mem_singleton.mpr (by decide)
  have lineFeed : ∀ c ∈ ['\n'], Text.isBlank c = true := List.forall_mem_singleton.mpr (by decide)
  have writes : List.Forall₂ SortTerm.Writes terms entries :=
    .cons ⟨price, [' '], ' ', "ASC".toList, ['\n'], by decide, List.forall_mem_singleton.mpr space, space,
        by decide, lineFeed⟩
      (.cons ⟨name, ['\t'], ' ', "desc".toList, [], by decide, tab, space, by decide,
        List.forall_mem_nil _⟩ .nil)
  have joined : written.scalar? Settings.builtin.sortKey =
      Option.some (String.ofList (Text.join ',' terms)) := by
    decide
  refine ⟨⟨given, order, found, keys.trans (by decide), (last _ _).mpr ?_⟩, some, distinct, writes, joined,
    (each_field_once .builtin written).2 entries terms some distinct writes joined⟩
  exact ⟨[("a", .ascending), ("b", .descending)], [], by decide, by decide⟩

end SortOrder

end DocumentQuery
