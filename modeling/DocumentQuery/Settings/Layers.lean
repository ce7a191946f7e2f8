import DocumentQuery.Files
import DocumentQuery.Settings.File

/-!
Settings from three sources: the command line, a settings file, and what is built in.

Each setting is taken from the first of them that gives it. The result is validated as a whole, so
names that clash only in one of the sources do no harm.
-/

namespace DocumentQuery

/-- Settings given one by one; they take precedence over a settings file. -/
structure Overrides where
  pageKey : Option String := none
  limitKey : Option String := none
  sortKey : Option String := none
  operatorKey : Option String := none
  fieldsKey : Option String := none
  defaultPage : Option Nat := none
  defaultLimit : Option Nat := none
  deriving DecidableEq

/-- The settings file that is looked for when none is named. -/
def SettingsFile.standardPath : String := "docquery.json"

/-- Why there are no settings. -/
inductive LoadError
  | missing (path : String)
  | unreadable (path : String) (failure : ReadFailure)
  | malformed (path : String)
  | invalid (error : SettingsError)
  deriving DecidableEq

/-- The texts of an error, each followed by its cause. -/
def LoadError.messages : LoadError → List String
  | .missing path => ["Config file not found: " ++ path]
  | .unreadable path failure => ["Failed to read config file: " ++ path, failure.message]
  | .malformed path => ["Failed to parse config file: " ++ path]
  | .invalid error => ["Invalid compiler configuration", error.message]

namespace Settings

/-- The settings that the sources give together. -/
def layered (file : SettingsFile) (overrides : Overrides) : Settings :=
  let keys := file.keys.getD {}
  let paging := file.paging.getD {}
  { pageKey := (overrides.pageKey.or keys.page).getD builtin.pageKey
    limitKey := (overrides.limitKey.or keys.limit).getD builtin.limitKey
    sortKey := (overrides.sortKey.or keys.sort).getD builtin.sortKey
    operatorKey := (overrides.operatorKey.or keys.operator).getD builtin.operatorKey
    fieldsKey := (overrides.fieldsKey.or keys.fields).getD builtin.fieldsKey
    defaultPage := (overrides.defaultPage.or paging.defaultPage).getD builtin.defaultPage
    defaultLimit := (overrides.defaultLimit.or paging.defaultLimit).getD builtin.defaultLimit }

/-- What the settings file says, given what there is under its path. Only a file that was not asked
for by name may be absent. -/
def fileContent (path : Option String) (lookup : FileLookup) : Except LoadError SettingsFile :=
  let source := path.getD SettingsFile.standardPath
  match lookup with
  | .absent _ =>
    match path with
    | some path => .error (.missing path)
    | none => .ok {}
  | .present (.error failure) => .error (.unreadable source failure)
  | .present (.ok text) =>
    match SettingsFile.read? text with
    | some file => .ok file
    | none => .error (.malformed source)

/-- The layered settings, if they are valid. -/
def ofLayers (file : SettingsFile) (overrides : Overrides) : Except LoadError Settings :=
  let settings := layered file overrides
  match settings.check with
  | .ok _ => .ok settings
  | .error error => .error (.invalid error)

/-- The settings in force, from the path that was asked for, what there is under the path of the
settings file, and the settings given one by one. -/
def ofSources (path : Option String) (lookup : FileLookup) (overrides : Overrides) :
    Except LoadError Settings := do
  let file ← fileContent path lookup
  ofLayers file overrides

end Settings

end DocumentQuery
