import DocumentQuery.Json.Basic

/-!
Settings: the parameter names that have a meaning of their own, and two numbers for paging.

`check` accepts settings whose five names are not empty and differ from each other and whose two
numbers are at least one; otherwise it reports the first thing wrong, names before numbers.
-/

namespace DocumentQuery

/-- The names of the reserved parameters, and what is assumed about paging without them. -/
structure Settings where
  pageKey : String
  limitKey : String
  sortKey : String
  /-- Names the parameter that chooses between `and` and `or`. -/
  operatorKey : String
  /-- Names the parameter that lists the fields to return. -/
  fieldsKey : String
  defaultPage : Nat
  defaultLimit : Nat
  deriving DecidableEq

namespace Settings

/-- The settings in force where nothing else is said. -/
def builtin : Settings where
  pageKey := "page"
  limitKey := "limit"
  sortKey := "sort"
  operatorKey := "_op"
  fieldsKey := "_fields"
  defaultPage := 1
  defaultLimit := 10

instance : Inhabited Settings :=
  ⟨builtin⟩

/-- The reserved names, each after the name of its setting. -/
def reservedKeys (settings : Settings) : List (String × String) :=
  [("page_key", settings.pageKey), ("limit_key", settings.limitKey),
    ("sort_key", settings.sortKey), ("operator_key", settings.operatorKey),
    ("fields_key", settings.fieldsKey)]

/-- Whether a parameter is none that a filter is made of. -/
def reserves (settings : Settings) (key : String) : Bool :=
  settings.reservedKeys.any fun named => named.2 = key

/-- Settings as JSON. -/
def toJson (settings : Settings) : Json :=
  .object (settings.reservedKeys.map (fun named => (named.1, .string named.2)) ++
    [("default_page", .integer settings.defaultPage),
      ("default_limit", .integer settings.defaultLimit)])

theorem reserves_iff {settings : Settings} {key : String} :
    settings.reserves key = true ↔
      settings.pageKey = key ∨ settings.limitKey = key ∨ settings.sortKey = key ∨
        settings.operatorKey = key ∨ settings.fieldsKey = key := by
  simp [reserves, reservedKeys]

end Settings

/-! ## Validation -/

/-- What is wrong with settings. -/
inductive SettingsError
  | emptyKey (setting : String)
  | duplicateKey (key : String)
  | invalidDefaultPage (page : Nat)
  | invalidDefaultLimit (limit : Nat)
  deriving DecidableEq

/-- The text of an error. -/
def SettingsError.message : SettingsError → String
  | .emptyKey setting => "Reserved key '" ++ setting ++ "' must not be empty"
  | .duplicateKey key => "Reserved key name '" ++ key ++ "' is used more than once"
  | .invalidDefaultPage page => "Default page must be >= 1, got " ++ toString page
  | .invalidDefaultLimit limit => "Default limit must be >= 1, got " ++ toString limit

namespace Settings

/-- Check named keys in order: none is empty or equal to an earlier one. -/
def checkKeys (earlier : List String) : List (String × String) → Except SettingsError Unit
  | [] => .ok ()
  | (setting, key) :: rest =>
    if key = "" then .error (.emptyKey setting)
    else if key ∈ earlier then .error (.duplicateKey key)
    else checkKeys (key :: earlier) rest

/-- Accept settings, or say what is first wrong with them. -/
def check (settings : Settings) : Except SettingsError Unit := do
  checkKeys [] settings.reservedKeys
  if settings.defaultPage < 1 then throw (.invalidDefaultPage settings.defaultPage)
  if settings.defaultLimit < 1 then throw (.invalidDefaultLimit settings.defaultLimit)

end Settings

end DocumentQuery
