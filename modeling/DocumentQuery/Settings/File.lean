import DocumentQuery.Json.Reader
import DocumentQuery.Settings.Basic

/-!
Settings in JSON: complete settings, and the settings file, where each one may be missing.

A group of settings is an object with named members or an array of all of them in order. Unknown
members of a group are passed over without asking for their values; unknown members of the file as a
whole are kept, so that they can be reported.
-/

namespace DocumentQuery

namespace Json.Document

/-! ## Groups of named members -/

/-- The names and documents of members, if all names can be read. -/
def named? (members : List (List Glyph × Document)) : Option (List (String × Document)) :=
  members.mapM fun (name, member) => (string? name).map fun name => (name, member)

/-- The only member under a name; two are an error. -/
def only? (name : String) (members : List (String × Document)) : Option (Option Document) :=
  match members.filter fun member => member.1 = name with
  | [] => some none
  | [member] => some (some member.2)
  | _ => none

/-- The documents of a group under the given names, missing ones left out. -/
def group? (names : List String) : Document → Option (List (Option Document))
  | .object members => do
    let members ← named? members
    names.mapM fun name => only? name members
  | .array items => if items.length = names.length then some (items.map some) else none
  | _ => none

/-! ## Single settings -/

/-- A text. -/
def text? : Document → Option String
  | .string glyphs => string? glyphs
  | _ => none

/-- A whole number of 64 bits without sign. -/
def natural? : Document → Option Nat
  | .number numeral => if numeral.negative then none else numeral.natural?
  | _ => none

/-- Something that may be missing or `null`. -/
def optional? {α : Type} (read : Document → Option α) : Option Document → Option (Option α)
  | none => some none
  | some .null => some none
  | some document => (read document).map some

end Json.Document

open Json (Document)

/-! ## Complete settings -/

/-- Settings from a document in which none of them is missing. -/
def Settings.ofDocument? (document : Document) : Option Settings := do
  let members ← document.group? ["page_key", "limit_key", "sort_key", "operator_key",
    "fields_key", "default_page", "default_limit"]
  match members with
  | [some page, some limit, some sort, some operator, some fields, some defaultPage,
      some defaultLimit] => do
    let pageKey ← page.text?
    let limitKey ← limit.text?
    let sortKey ← sort.text?
    let operatorKey ← operator.text?
    let fieldsKey ← fields.text?
    let defaultPage ← defaultPage.natural?
    let defaultLimit ← defaultLimit.natural?
    some { pageKey, limitKey, sortKey, operatorKey, fieldsKey, defaultPage, defaultLimit }
  | _ => none

/-- Settings from the text of a JSON document. -/
def Settings.read? (text : String) : Option Settings := do
  let document ← Document.read? text
  Settings.ofDocument? document

/-! ## The settings file -/

/-- The names of the reserved parameters in a settings file. -/
structure KeySection where
  page : Option String := none
  limit : Option String := none
  sort : Option String := none
  operator : Option String := none
  fields : Option String := none
  deriving DecidableEq

/-- The numbers for paging in a settings file. -/
structure PagingSection where
  defaultPage : Option Nat := none
  defaultLimit : Option Nat := none
  deriving DecidableEq

/-- What a settings file says. -/
structure SettingsFile where
  keys : Option KeySection := none
  paging : Option PagingSection := none
  /-- The members that are neither. -/
  extra : List (String × Json) := []

/-- A section of reserved names. -/
def KeySection.ofDocument? (document : Document) : Option KeySection := do
  let members ← document.group? ["page", "limit", "sort", "operator", "fields"]
  let names ← members.mapM (Document.optional? Document.text?)
  match names with
  | [page, limit, sort, operator, fields] => some { page, limit, sort, operator, fields }
  | _ => none

/-- A section of numbers for paging. -/
def PagingSection.ofDocument? (document : Document) : Option PagingSection := do
  let members ← document.group? ["default_page", "default_limit"]
  let numbers ← members.mapM (Document.optional? Document.natural?)
  match numbers with
  | [defaultPage, defaultLimit] => some { defaultPage, defaultLimit }
  | _ => none

namespace SettingsFile

/-- The names of the two sections. -/
def sections : List String :=
  ["keys", "pagination"]

/-- A settings file from its document. -/
def ofDocument? : Document → Option SettingsFile
  | .object members => do
    let members ← Document.named? members
    let keys ← Document.only? "keys" members
    let keys ← Document.optional? KeySection.ofDocument? keys
    let paging ← Document.only? "pagination" members
    let paging ← Document.optional? PagingSection.ofDocument? paging
    let extra ← (members.filter fun member => member.1 ∉ sections).mapM fun (name, member) =>
      (member.value? (Document.greatestDepth - 1)).map fun value => (name, value)
    some { keys, paging, extra := Json.settle extra }
  | _ => none

/-- A settings file from its text. -/
def read? (text : String) : Option SettingsFile := do
  let document ← Document.read? text
  ofDocument? document

/-- The names of the members that mean nothing. -/
def unknownNames (file : SettingsFile) : List String :=
  file.extra.map Prod.fst

end SettingsFile

end DocumentQuery
