import DocumentQuery.Proofs.Settings.Fault
import DocumentQuery.Proofs.Settings.File
import DocumentQuery.Settings.Layers

/-!
Settings from their sources.

Loading takes each setting from the first source that gives it and checks the result as a whole. It
ends with settings or with an error, and `Settings.first_source_or_error` says exactly when with
which: settings are never ones that the check refuses, and a file that was asked for and is not
there, or one that is no settings file, is always an error.
-/

namespace DocumentQuery

open Json (Document)

/-! ## The settings file -/

namespace SettingsFile

/-- The document that settings are taken from: what a file that is there contains, if that is a
settings file, and an object with nothing in it if no file was asked for and there is none. -/
inductive IsSource (path : Option String) (lookup : FileLookup) : Document → Prop
  | found {text : String} {document : Document} :
      lookup = .present (.ok text) → Document.read? text = some document →
      (ofDocument? document).isSome = true → IsSource path lookup document
  | absent {failure : ReadFailure} :
      path = none → lookup = .absent failure → IsSource path lookup (.object [])

/-- Why there is nothing to take settings from. The file is named in each case. -/
inductive IsFault (path : Option String) (lookup : FileLookup) : LoadError → Prop
  | missing {asked : String} {failure : ReadFailure} :
      path = some asked → lookup = .absent failure → IsFault path lookup (.missing asked)
  | unreadable {failure : ReadFailure} :
      lookup = .present (.error failure) →
      IsFault path lookup (.unreadable (path.getD standardPath) failure)
  | malformed {text : String} :
      lookup = .present (.ok text) → read? text = none →
      IsFault path lookup (.malformed (path.getD standardPath))

theorem ofDocument?_nil : ofDocument? (.object []) = some {} :=
  rfl

theorem IsSource.exists_file {path : Option String} {lookup : FileLookup} {document : Document}
    (source : IsSource path lookup document) : ∃ file, ofDocument? document = some file := by
  cases source with
  | found _ _ readable => exact Option.isSome_iff_exists.mp readable
  | absent => exact ⟨{}, ofDocument?_nil⟩

/-- There is always either something to take settings from or a reason why not. -/
theorem source_or_fault (path : Option String) (lookup : FileLookup) :
    (∃ document, IsSource path lookup document) ∨ ∃ error, IsFault path lookup error := by
  cases lookup with
  | absent failure =>
    cases path with
    | none => exact Or.inl ⟨_, .absent rfl rfl⟩
    | some asked => exact Or.inr ⟨_, .missing rfl rfl⟩
  | present content =>
    cases content with
    | error failure => exact Or.inr ⟨_, .unreadable rfl⟩
    | ok text =>
      cases parsed : read? text with
      | none => exact Or.inr ⟨_, .malformed rfl parsed⟩
      | some file =>
        simp only [read?, Option.bind_eq_bind, Option.bind_eq_some_iff] at parsed
        obtain ⟨document, written, means⟩ := parsed
        exact Or.inl ⟨document, .found rfl written (Option.isSome_of_eq_some means)⟩

end SettingsFile

namespace Settings

theorem fileContent_of_isSource {path : Option String} {lookup : FileLookup} {document : Document}
    {file : SettingsFile} (source : SettingsFile.IsSource path lookup document)
    (means : SettingsFile.ofDocument? document = some file) :
    fileContent path lookup = .ok file := by
  cases source with
  | found there written _ => simp [there, fileContent, SettingsFile.read?, written, means]
  | absent noPath absent =>
    rw [SettingsFile.ofDocument?_nil] at means
    obtain rfl := Option.some.inj means
    simp [noPath, absent, fileContent]

theorem fileContent_of_isFault {path : Option String} {lookup : FileLookup} {error : LoadError}
    (fault : SettingsFile.IsFault path lookup error) : fileContent path lookup = .error error := by
  cases fault with
  | missing asked absent => simp [asked, absent, fileContent]
  | unreadable there => simp [there, fileContent]
  | malformed there parsed => simp [there, fileContent, parsed]

/-! ## Layers -/

/-- A value is the one of the first source that gives one: the override, else what the file gives,
else the built-in value. -/
inductive IsTakenFrom {α : Type} (override given : Option α) (standard : α) : α → Prop
  | override {value : α} : override = some value → IsTakenFrom override given standard value
  | given {value : α} : override = none → given = some value →
      IsTakenFrom override given standard value
  | standard : override = none → given = none → IsTakenFrom override given standard standard

theorem isTakenFrom_iff {α : Type} {override given : Option α} {standard value : α} :
    IsTakenFrom override given standard value ↔ value = (override.or given).getD standard := by
  constructor
  · intro taken
    cases taken with
    | override first => rw [first]; rfl
    | given first second => rw [first, second]; rfl
    | standard first second => rw [first, second]; rfl
  · rintro rfl
    cases override with
    | some value => exact .override rfl
    | none =>
      cases given with
      | some value => exact .given rfl rfl
      | none => exact .standard rfl rfl

/-- Settings of which each is taken from its own three sources. -/
structure IsLayered (document : Document) (overrides : Overrides) (settings : Settings) : Prop where
  pageKey : IsTakenFrom overrides.pageKey (SettingsFile.text? document "page")
    builtin.pageKey settings.pageKey
  limitKey : IsTakenFrom overrides.limitKey (SettingsFile.text? document "limit")
    builtin.limitKey settings.limitKey
  sortKey : IsTakenFrom overrides.sortKey (SettingsFile.text? document "sort")
    builtin.sortKey settings.sortKey
  operatorKey : IsTakenFrom overrides.operatorKey (SettingsFile.text? document "operator")
    builtin.operatorKey settings.operatorKey
  fieldsKey : IsTakenFrom overrides.fieldsKey (SettingsFile.text? document "fields")
    builtin.fieldsKey settings.fieldsKey
  defaultPage : IsTakenFrom overrides.defaultPage (SettingsFile.number? document "default_page")
    builtin.defaultPage settings.defaultPage
  defaultLimit : IsTakenFrom overrides.defaultLimit (SettingsFile.number? document "default_limit")
    builtin.defaultLimit settings.defaultLimit

/-- The layers of a file that can be read are those of its document. -/
theorem isLayered_iff {document : Document} {file : SettingsFile}
    (read : SettingsFile.ofDocument? document = some file) {overrides : Overrides}
    {settings : Settings} :
    IsLayered document overrides settings ↔ settings = layered file overrides := by
  obtain ⟨keys, paging⟩ := SettingsFile.values_of_ofDocument? read
  simp only [KeySection.values, KeySection.names, PagingSection.values, PagingSection.names,
    List.map_cons, List.map_nil, List.cons.injEq, and_true] at keys paging
  obtain ⟨page, limit, sort, operator, fields⟩ := keys
  obtain ⟨defaultPage, defaultLimit⟩ := paging
  constructor
  · intro layers
    obtain ⟨pageKey, limitKey, sortKey, operatorKey, fieldsKey, firstPage, pageSize⟩ := layers
    obtain ⟨_, _, _, _, _, _, _⟩ := settings
    rw [isTakenFrom_iff] at pageKey limitKey sortKey operatorKey fieldsKey firstPage pageSize
    simp only [layered, page, limit, sort, operator, fields, defaultPage, defaultLimit,
      Settings.mk.injEq]
    exact ⟨pageKey, limitKey, sortKey, operatorKey, fieldsKey, firstPage, pageSize⟩
  · rintro rfl
    constructor <;> simp only [isTakenFrom_iff, layered, page, limit, sort, operator, fields,
      defaultPage, defaultLimit]

theorem ofLayers_eq_ok_iff {file : SettingsFile} {overrides : Overrides} {settings : Settings} :
    ofLayers file overrides = .ok settings ↔
      settings = layered file overrides ∧ settings.check = .ok () := by
  unfold ofLayers
  cases checked : (layered file overrides).check with
  | ok =>
    simp only [checked, Except.ok.injEq]
    constructor
    · rintro rfl
      exact ⟨rfl, checked⟩
    · rintro ⟨rfl, _⟩
      rfl
  | error fault =>
    simp only [checked, reduceCtorEq, false_iff, not_and]
    rintro rfl accepted
    rw [checked] at accepted
    cases accepted

theorem ofLayers_eq_error_iff {file : SettingsFile} {overrides : Overrides} {error : LoadError} :
    ofLayers file overrides = .error error ↔
      ∃ fault, (layered file overrides).check = .error fault ∧ error = .invalid fault := by
  unfold ofLayers
  cases checked : (layered file overrides).check with
  | ok => simp [checked]
  | error fault => simp [checked, eq_comm]

/-! ## Loading -/

theorem ofSources_of_isSource {path : Option String} {lookup : FileLookup} {document : Document}
    {file : SettingsFile} (source : SettingsFile.IsSource path lookup document)
    (means : SettingsFile.ofDocument? document = some file) (overrides : Overrides) :
    ofSources path lookup overrides = ofLayers file overrides := by
  rw [ofSources, fileContent_of_isSource source means]
  rfl

theorem ofSources_of_isFault {path : Option String} {lookup : FileLookup} {error : LoadError}
    (fault : SettingsFile.IsFault path lookup error) (overrides : Overrides) :
    ofSources path lookup overrides = .error error := by
  rw [ofSources, fileContent_of_isFault fault]
  rfl

theorem ofSources_eq_ok_iff {path : Option String} {lookup : FileLookup} {overrides : Overrides}
    {settings : Settings} :
    ofSources path lookup overrides = .ok settings ↔
      (∃ document, SettingsFile.IsSource path lookup document ∧
        IsLayered document overrides settings) ∧ settings.check = .ok () := by
  constructor
  · intro loaded
    rcases SettingsFile.source_or_fault path lookup with ⟨document, source⟩ | ⟨error, fault⟩
    · obtain ⟨file, means⟩ := source.exists_file
      rw [ofSources_of_isSource source means] at loaded
      obtain ⟨layers, valid⟩ := ofLayers_eq_ok_iff.mp loaded
      exact ⟨⟨document, source, (isLayered_iff means).mpr layers⟩, valid⟩
    · rw [ofSources_of_isFault fault] at loaded
      cases loaded
  · intro sound
    obtain ⟨⟨document, source, layers⟩, valid⟩ := sound
    obtain ⟨file, means⟩ := source.exists_file
    rw [ofSources_of_isSource source means]
    exact ofLayers_eq_ok_iff.mpr ⟨(isLayered_iff means).mp layers, valid⟩

theorem ofSources_eq_error_iff {path : Option String} {lookup : FileLookup} {overrides : Overrides}
    {error : LoadError} :
    ofSources path lookup overrides = .error error ↔
      SettingsFile.IsFault path lookup error ∨
        ∃ document settings fault, SettingsFile.IsSource path lookup document ∧
          IsLayered document overrides settings ∧ settings.check = .error fault ∧
          error = .invalid fault := by
  constructor
  · intro failed
    rcases SettingsFile.source_or_fault path lookup with ⟨document, source⟩ | ⟨other, fault⟩
    · obtain ⟨file, means⟩ := source.exists_file
      rw [ofSources_of_isSource source means] at failed
      obtain ⟨fault, refused, rfl⟩ := ofLayers_eq_error_iff.mp failed
      exact Or.inr ⟨document, _, fault, source, (isLayered_iff means).mpr rfl, refused, rfl⟩
    · rw [ofSources_of_isFault fault] at failed
      obtain rfl := Except.error.inj failed
      exact Or.inl fault
  · intro reason
    rcases reason with fault | ⟨document, settings, fault, source, layers, refused, rfl⟩
    · exact ofSources_of_isFault fault overrides
    · obtain ⟨file, means⟩ := source.exists_file
      rw [ofSources_of_isSource source means]
      obtain rfl := (isLayered_iff means).mp layers
      exact ofLayers_eq_error_iff.mpr ⟨fault, refused, rfl⟩

/-- Loading gives settings exactly when there is something to take them from and what is taken passes
the check: each of the seven from its own override, else from the file, else the built-in one. Else it
says why: nothing is put in the place of a file that was asked for and is not there, or of one that
cannot be read as settings. The check passes settings with five keys that are not empty and differ and
with defaults of at least one, and of others it says what is first wrong with them. -/
theorem first_source_or_error :
    (∀ path lookup overrides settings,
        ofSources path lookup overrides = .ok settings ↔
          (∃ document, SettingsFile.IsSource path lookup document ∧
            IsLayered document overrides settings) ∧ settings.check = .ok ()) ∧
      (∀ path lookup overrides error,
        ofSources path lookup overrides = .error error ↔
          SettingsFile.IsFault path lookup error ∨
            ∃ document settings fault, SettingsFile.IsSource path lookup document ∧
              IsLayered document overrides settings ∧ settings.check = .error fault ∧
              error = .invalid fault) ∧
      ∀ settings : Settings,
        (settings.check = .ok () ↔ settings.IsValid) ∧
          ∀ fault, settings.check = .error fault ↔ settings.IsFirstFault fault :=
  ⟨fun _ _ _ _ => ofSources_eq_ok_iff, fun _ _ _ _ => ofSources_eq_error_iff,
    fun _ => ⟨check_eq_ok_iff_isValid, fun _ => check_eq_error_iff⟩⟩

/-- A file that sorts by the page is of use with another name for the page. -/
example :
    let file := "\x7b\"keys\":\x7b\"sort\":\"page\",\"limit\":null\x7d\x7d"
    ofSources none (.present (.ok file)) {} = .error (.invalid (.duplicateKey "page")) ∧
      ofSources none (.present (.ok file)) { pageKey := some "p" } =
        .ok { builtin with pageKey := "p", sortKey := "page" } := by
  decide +kernel

end Settings

end DocumentQuery
