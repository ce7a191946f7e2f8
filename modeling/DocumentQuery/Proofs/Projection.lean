import DocumentQuery.Projection
import DocumentQuery.Proofs.Json.ReadBack
import DocumentQuery.Proofs.Text.Blank
import DocumentQuery.Proofs.Text.Split

/-!
Projections and the names between commas.

A projection has the trimmed pieces of its text, each at its first place, and its JSON text is an object
with these names. Names that differ, are trimmed and have no commas in them are the fields of the text that
they are joined to. The fields of a projection are such names, so a projection is given again by its own
fields, unless the only one is empty (`Projection.each_name_once`).
-/

namespace DocumentQuery

/-! ## Trimmed pieces -/

namespace Text

variable {separator : Char}

theorem trimmed_trimmed (text : String) : trimmed (trimmed text) = trimmed text := by
  rw [← String.toList_inj, toList_trimmed, toList_trimmed, trim_trim]

theorem trimmedPieces_ne_nil (separator : Char) (text : String) : trimmedPieces separator text ≠ [] :=
  mt List.map_eq_nil_iff.mp (pieces_ne_nil separator text)

theorem trimmed_of_mem_trimmedPieces {text piece : String} (member : piece ∈ trimmedPieces separator text) :
    trimmed piece = piece := by
  obtain ⟨whole, _, rfl⟩ := List.mem_map.mp member
  exact trimmed_trimmed whole

theorem not_mem_of_mem_trimmedPieces {text piece : String}
    (member : piece ∈ trimmedPieces separator text) : separator ∉ piece.toList := by
  obtain ⟨whole, inside, rfl⟩ := List.mem_map.mp member
  rw [toList_trimmed]
  exact fun kept => not_mem_of_mem_pieces inside (mem_of_mem_trim kept)

/-- Trimmed texts without a separator in them are the trimmed pieces of the text that they are joined
to. -/
theorem trimmedPieces_joined {texts : List String} (nonempty : texts ≠ [])
    (whole : ∀ text ∈ texts, separator ∉ text.toList) (neat : ∀ text ∈ texts, trimmed text = text) :
    trimmedPieces separator (joined separator texts) = texts := by
  rw [trimmedPieces, pieces_joined nonempty whole, List.map_congr_left neat, List.map_id']

/-- Only one text is joined to the empty text, the empty one. -/
theorem joined_ne_empty {texts : List String} (nonempty : texts ≠ [])
    (whole : ∀ text ∈ texts, separator ∉ text.toList) (ne : texts ≠ [""]) :
    joined separator texts ≠ "" := by
  intro empty
  have pieces := pieces_joined nonempty whole
  rw [empty] at pieces
  exact ne pieces.symm

end Text

namespace Projection

/-! ## Each name once -/

theorem fields_ofList (names : List String) : (ofList names).fields = names.eraseDups := by
  induction names using List.reverseRecOn with
  | nil => rfl
  | append_singleton names name ih =>
    unfold ofList at ih ⊢
    rw [List.foldl_append, List.foldl_cons, List.foldl_nil, fields_insert, ih,
      eraseDups_append_singleton]
    simp only [List.mem_eraseDups]

theorem eq_of_fields_eq {left right : Projection} (same : left.fields = right.fields) : left = right := by
  cases left
  cases right
  rw [Projection.mk.injEq]
  exact same

theorem ofList_fields (projection : Projection) : ofList projection.fields = projection := by
  apply eq_of_fields_eq
  rw [fields_ofList, eraseDups_of_nodup projection.nodup]

theorem ofParameters?_of_scalar? {settings : Settings} {parameters : Parameters} {text : String}
    (given : parameters.scalar? settings.fieldsKey = some text) (nonempty : text ≠ "") :
    ofParameters? settings parameters = some (ofList (Text.trimmedPieces ',' text)) := by
  unfold ofParameters?
  rw [given]
  exact if_neg nonempty

/-- A request for names that are trimmed and have no commas in them. -/
theorem ofParameters?_of_joined {settings : Settings} {parameters : Parameters} {names : List String}
    (nonempty : names ≠ []) (ne : names ≠ [""]) (whole : ∀ name ∈ names, ',' ∉ name.toList)
    (neat : ∀ name ∈ names, Text.trimmed name = name)
    (given : parameters.scalar? settings.fieldsKey = some (",".intercalate names)) :
    ofParameters? settings parameters = some (ofList names) := by
  rw [Text.intercalate_comma] at given
  rw [ofParameters?_of_scalar? given (Text.joined_ne_empty nonempty whole ne),
    Text.trimmedPieces_joined nonempty whole neat]

/-! ## The fields of a request -/

/-- The projection of a request has a name, and only names that are trimmed and have no commas in them. -/
theorem names_of_ofParameters? {settings : Settings} {parameters : Parameters} {projection : Projection}
    (found : ofParameters? settings parameters = some projection) :
    projection.fields ≠ [] ∧
      ∀ name ∈ projection.fields, ',' ∉ name.toList ∧ Text.trimmed name = name := by
  unfold ofParameters? at found
  split at found
  · cases found
  · next text _ =>
    split at found
    · cases found
    · obtain rfl := Option.some.inj found
      rw [fields_ofList]
      constructor
      · obtain ⟨first, others, pieces⟩ :=
          List.exists_cons_of_ne_nil (Text.trimmedPieces_ne_nil ',' text)
        rw [pieces]
        exact List.ne_nil_of_mem (List.mem_eraseDups.mpr List.mem_cons_self)
      · intro name member
        have piece := List.mem_eraseDups.mp member
        exact ⟨Text.not_mem_of_mem_trimmedPieces piece, Text.trimmed_of_mem_trimmedPieces piece⟩

theorem take?_compact_toJson (projection : Projection) :
    Json.take? projection.toJson.compact.toList =
      some (.object (projection.fields.map fun field => (field, .integer 1)), []) := by
  have names : (projection.fields.map fun field => (field, Json.integer 1)).map Prod.fst =
      projection.fields := by
    rw [List.map_map]
    exact List.map_id' _
  have plain : Json.IsPlain Json.Document.greatestDepth projection.toJson := by
    apply Json.isPlain_object
    · rw [names]
      exact projection.nodup
    · intro member inside
      obtain ⟨field, _, rfl⟩ := List.mem_map.mp inside
      rw [Json.IsPlain]
      decide
  have taken := Json.take?_compact plain (Or.inl rfl)
  rw [List.append_nil] at taken
  exact taken

/-- A text that a request gives for its projection, if it is not empty, gives the names between its commas
without the blanks around them, each once and where it comes first, and an object of these names as JSON.
Any different names without commas and without blanks around them are what the text of these names gives,
except the empty name alone. So the names of a projection, given as a text, ask for that projection. -/
theorem each_name_once (settings : Settings) (parameters : Parameters) :
    (∀ text, parameters.scalar? settings.fieldsKey = some text → text ≠ "" →
        ∃ projection, ofParameters? settings parameters = some projection ∧
          projection.fields = ((Text.pieces ',' text).map Text.trimmed).eraseDups ∧
          projection.fields.Nodup ∧
          Json.take? projection.toJson.compact.toList =
            some (.object (projection.fields.map fun field => (field, .integer 1)), [])) ∧
      (∀ names, names ≠ [] → names ≠ [""] → names.Nodup → (∀ name ∈ names, ',' ∉ name.toList) →
        (∀ name ∈ names, Text.trimmed name = name) →
          parameters.scalar? settings.fieldsKey = some (",".intercalate names) →
            ∃ projection, ofParameters? settings parameters = some projection ∧
              projection.fields = names) ∧
      ∀ projection, ofParameters? settings parameters = some projection →
        ∀ again : Parameters,
          again.scalar? settings.fieldsKey = some (",".intercalate projection.fields) →
            (projection.fields ≠ [""] → ofParameters? settings again = some projection) ∧
              (projection.fields = [""] → ofParameters? settings again = none) := by
  refine ⟨fun text given nonempty => ?_, fun names nonempty ne distinct whole neat given => ?_,
    fun projection found again given => ⟨fun ne => ?_, fun empty => ?_⟩⟩
  · have asked := ofParameters?_of_scalar? given nonempty
    exact ⟨_, asked, fields_ofList _, Projection.nodup _, take?_compact_toJson _⟩
  · refine ⟨_, ofParameters?_of_joined nonempty ne whole neat given, ?_⟩
    rw [fields_ofList, eraseDups_of_nodup distinct]
  · obtain ⟨nonempty, names⟩ := names_of_ofParameters? found
    rw [ofParameters?_of_joined nonempty ne (fun name member => (names name member).1)
      (fun name member => (names name member).2) given, ofList_fields]
  · rw [empty] at given
    unfold ofParameters?
    rw [given]
    rfl

/-- Names with blanks of several kinds, one of them twice and one empty, and names with a blank inside and an
empty one at the end. -/
theorem each_name_once_blanks :
    let parameters := Parameters.ofPairs [("page", "2"), ("_fields", " B,\u3000A\n,,A ,B\u00a0")]
    let again := Parameters.ofPairs [("_fields", "B,A,")]
    let names := ["first name", "id", ""]
    let named := Parameters.ofPairs [("_fields", "first name,id"), ("_fields", "")]
    (∃ projection, ofParameters? .builtin parameters = some projection ∧
        projection.fields = ["B", "A", ""] ∧ ofParameters? .builtin again = some projection ∧
        Json.take? projection.toJson.compact.toList =
          some (.object [("B", .integer 1), ("A", .integer 1), ("", .integer 1)], [])) ∧
      named.scalar? "_fields" = some (",".intercalate names) ∧
        ∃ projection, ofParameters? .builtin named = some projection ∧ projection.fields = names := by
  intro parameters again names named
  have given : parameters.scalar? Settings.builtin.fieldsKey =
      some " B,\u3000A\n,,A ,B\u00a0" := by
    decide
  have joined : named.scalar? Settings.builtin.fieldsKey = some (",".intercalate names) := by decide
  obtain ⟨resolved, _, canonical⟩ := each_name_once .builtin parameters
  obtain ⟨projection, found, all, _, json⟩ := resolved _ given (by decide)
  have fields : projection.fields = ["B", "A", ""] := all.trans (by decide)
  have text : again.scalar? Settings.builtin.fieldsKey = some (",".intercalate projection.fields) := by
    rw [fields]
    decide
  have other : projection.fields ≠ [""] := by
    rw [fields]
    decide
  rw [fields] at json
  refine ⟨⟨projection, found, fields, (canonical projection found again text).1 other, json⟩, joined, ?_⟩
  exact (each_name_once .builtin named).2.1 names (by decide) (by decide) (by decide) (by decide)
    (by decide) joined

end Projection

end DocumentQuery
