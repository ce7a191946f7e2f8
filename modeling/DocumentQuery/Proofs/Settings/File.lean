import DocumentQuery.Proofs.Correspondence
import DocumentQuery.Settings.File

/-!
What a settings file gives.

A setting is looked up in the document of the file: first its section, then the setting in the
section, by name in an object and by place in an array (`Document.under?`). A file that can be read
has in each of its fields what stands at that place in the document, and nothing where nothing or
`null` stands there (`SettingsFile.values_of_ofDocument?`).
-/

namespace DocumentQuery

open Json (Document)

/-! ## Groups -/

namespace Json.Document

/-- What a group has under one of its names: in an object the member of that name, in an array the
item at the place that the name has among the names. -/
def under? (names : List String) (name : String) : Document → Option Document
  | .object members =>
    (named? members).bind fun members => (members.find? fun member => member.1 = name).map Prod.snd
  | .array items => items[names.idxOf name]?
  | _ => none

theorem only?_eq_some {name : String} {members : List (String × Document)} {found : Option Document}
    (only : only? name members = some found) :
    (members.find? fun member => member.1 = name).map Prod.snd = found := by
  rw [← List.head?_filter]
  unfold only? at only
  split at only
  · next none => rw [none]; exact Option.some.inj only
  · next one => rw [one]; exact Option.some.inj only
  · cases only

/-- A group that can be read gives for each of its names what stands under it. -/
theorem group?_eq_some {names : List String} (distinct : names.Nodup) {group : Document}
    {members : List (Option Document)} (read : group? names group = some members) :
    members = names.map fun name => under? names name group := by
  cases group with
  | object given =>
    simp only [group?, Option.bind_eq_bind, Option.bind_eq_some_iff] at read
    obtain ⟨entries, named, each⟩ := read
    refine eq_map_of_mapM_eq_some (fun name found only => ?_) each
    rw [under?, named]
    exact (only?_eq_some only).symm
  | array items =>
    rw [group?] at read
    split at read
    · next length =>
      obtain rfl := Option.some.inj read
      refine List.ext_getElem (by simp [length]) fun index inItems inNames => ?_
      rw [List.getElem_map, List.getElem_map, under?, distinct.idxOf_getElem]
      exact (List.getElem?_eq_getElem _).symm
    · cases read
  | _ => cases read

/-- Nothing and `null` are read as nothing; anything else has to be readable. -/
theorem optional?_eq_some {α : Type} {read : Document → Option α} {document : Option Document}
    {value : Option α} (found : optional? read document = some value) :
    (document = none ∨ document = some .null) ∧ value = none ∨
      ∃ given result, document = some given ∧ read given = some result ∧ value = some result := by
  cases document with
  | none => exact Or.inl ⟨Or.inl rfl, (Option.some.inj found).symm⟩
  | some given =>
    cases given with
    | null => exact Or.inl ⟨Or.inr rfl, (Option.some.inj found).symm⟩
    | _ =>
      obtain ⟨result, readable, rfl⟩ := Option.map_eq_some_iff.mp found
      exact Or.inr ⟨_, result, rfl, readable, rfl⟩

theorem optional?_eq_some_bind {α : Type} {read : Document → Option α} (null : read .null = none)
    {document : Option Document} {value : Option α} (found : optional? read document = some value) :
    value = document.bind read := by
  rcases optional?_eq_some found with ⟨rfl | rfl, rfl⟩ | ⟨given, result, rfl, readable, rfl⟩
  · rfl
  · exact null.symm
  · exact readable.symm

/-- The settings of a group that can be read, in the order of their names. -/
theorem mapM_optional?_group? {α : Type} {read : Document → Option α} (null : read .null = none)
    {names : List String} (distinct : names.Nodup) {group : Document}
    {members : List (Option Document)} (grouped : group? names group = some members)
    {values : List (Option α)} (each : members.mapM (optional? read) = some values) :
    values = names.map fun name => (under? names name group).bind read := by
  rw [eq_map_of_mapM_eq_some (fun _ _ => optional?_eq_some_bind null) each,
    group?_eq_some distinct grouped, List.map_map]
  rfl

/-- A section that may be missing gives nothing where it is. -/
theorem values_of_optional? {α β : Type} {ofDocument? : Document → Option α}
    {values : α → List (Option β)} {names : List String} {read : Document → Option β}
    (reads : ∀ group given, ofDocument? group = some given →
      values given = names.map fun name => (under? names name group).bind read)
    {blank : α} (nothing : values blank = names.map fun _ => none) {group : Option Document}
    {given : Option α} (found : optional? ofDocument? group = some given) :
    values (given.getD blank) = names.map fun name => (group.bind (under? names name)).bind read := by
  rcases optional?_eq_some found with ⟨rfl | rfl, rfl⟩ | ⟨document, result, rfl, readable, rfl⟩
  · exact nothing
  · exact nothing
  · exact reads document result readable

end Json.Document

/-! ## Sections -/

/-- The names of the settings in a section of reserved names. -/
def KeySection.names : List String :=
  ["page", "limit", "sort", "operator", "fields"]

/-- The settings of a section of reserved names, in the order of their names. -/
def KeySection.values (keys : KeySection) : List (Option String) :=
  [keys.page, keys.limit, keys.sort, keys.operator, keys.fields]

/-- The names of the settings in a section of numbers for paging. -/
def PagingSection.names : List String :=
  ["default_page", "default_limit"]

/-- The settings of a section of numbers for paging, in the order of their names. -/
def PagingSection.values (paging : PagingSection) : List (Option Nat) :=
  [paging.defaultPage, paging.defaultLimit]

theorem KeySection.values_of_ofDocument? (group : Document) (keys : KeySection)
    (read : ofDocument? group = some keys) :
    keys.values = names.map fun name => (group.under? names name).bind Document.text? := by
  simp only [ofDocument?, Option.bind_eq_bind, Option.bind_eq_some_iff] at read
  obtain ⟨members, grouped, texts, each, made⟩ := read
  refine Eq.trans ?_ (Document.mapM_optional?_group? rfl (by decide) grouped each)
  split at made
  · obtain rfl := Option.some.inj made
    rfl
  · cases made

theorem PagingSection.values_of_ofDocument? (group : Document) (paging : PagingSection)
    (read : ofDocument? group = some paging) :
    paging.values = names.map fun name => (group.under? names name).bind Document.natural? := by
  simp only [ofDocument?, Option.bind_eq_bind, Option.bind_eq_some_iff] at read
  obtain ⟨members, grouped, numbers, each, made⟩ := read
  refine Eq.trans ?_ (Document.mapM_optional?_group? rfl (by decide) grouped each)
  split at made
  · obtain rfl := Option.some.inj made
    rfl
  · cases made

/-! ## The file -/

namespace SettingsFile

/-- The text that the document of a settings file gives for a reserved name, if it gives one. -/
def text? (document : Document) (name : String) : Option String :=
  ((document.under? sections "keys").bind (Document.under? KeySection.names name)).bind
    Document.text?

/-- The number that the document of a settings file gives for paging, if it gives one. -/
def number? (document : Document) (name : String) : Option Nat :=
  ((document.under? sections "pagination").bind (Document.under? PagingSection.names name)).bind
    Document.natural?

theorem values_of_ofDocument? {document : Document} {file : SettingsFile}
    (read : ofDocument? document = some file) :
    (file.keys.getD {}).values = KeySection.names.map (text? document) ∧
      (file.paging.getD {}).values = PagingSection.names.map (number? document) := by
  cases document with
  | object given =>
    simp only [ofDocument?, Option.bind_eq_bind, Option.bind_eq_some_iff] at read
    obtain ⟨members, named, keys, onlyKeys, keySection, readKeys, paging, onlyPaging, pagingSection,
      readPaging, extra, _, made⟩ := read
    obtain rfl := Option.some.inj made
    have keysUnder : Document.under? sections "keys" (.object given) = keys := by
      rw [Document.under?, named]
      exact Document.only?_eq_some onlyKeys
    have pagingUnder : Document.under? sections "pagination" (.object given) = paging := by
      rw [Document.under?, named]
      exact Document.only?_eq_some onlyPaging
    unfold text? number?
    rw [keysUnder, pagingUnder]
    exact ⟨Document.values_of_optional? KeySection.values_of_ofDocument? rfl readKeys,
      Document.values_of_optional? PagingSection.values_of_ofDocument? rfl readPaging⟩
  | _ => cases read

end SettingsFile

end DocumentQuery
