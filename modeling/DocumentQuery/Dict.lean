/-!
Dictionaries that keep their keys in the order of first insertion.

A dictionary is a list of entries in which no key occurs twice. Every change goes through
`Dict.alter`: the value of a known key changes in place, a new key goes to the end. The two facts
about it, `get?_alter` and `keys_alter`, say all that `insert` and the other changes need.
-/

namespace DocumentQuery

variable {κ α : Type}

/-! ## Lists of entries -/

namespace Entries

variable [DecidableEq κ]

/-- The value of the first entry under `key`. -/
def find? (key : κ) : List (κ × α) → Option α
  | [] => none
  | (k, value) :: rest => if k = key then some value else find? key rest

/-- Apply `change` to the value under `key` where it stands; an absent key goes to the end. -/
def alter (key : κ) (change : Option α → α) : List (κ × α) → List (κ × α)
  | [] => [(key, change none)]
  | (k, value) :: rest =>
    if k = key then (k, change (some value)) :: rest else (k, value) :: alter key change rest

theorem find?_eq_none {key : κ} {entries : List (κ × α)} (h : key ∉ entries.map Prod.fst) :
    find? key entries = none := by
  induction entries with
  | nil => rfl
  | cons entry rest ih =>
    obtain ⟨k, value⟩ := entry
    rw [List.map_cons, List.mem_cons, not_or] at h
    rw [find?, if_neg (Ne.symm h.1), ih h.2]

theorem mem_of_find?_eq_some {key : κ} {value : α} {entries : List (κ × α)}
    (h : find? key entries = some value) : (key, value) ∈ entries := by
  induction entries with
  | nil => cases h
  | cons entry rest ih =>
    obtain ⟨k, other⟩ := entry
    rw [find?] at h
    split at h
    · next same =>
      cases h
      subst same
      exact List.mem_cons_self
    · exact List.mem_cons_of_mem _ (ih h)

theorem find?_alter (key other : κ) (change : Option α → α) (entries : List (κ × α)) :
    find? other (alter key change entries) =
      if other = key then some (change (find? key entries)) else find? other entries := by
  induction entries with
  | nil =>
    by_cases h : other = key
    · simp [alter, find?, h]
    · simp [alter, find?, h, Ne.symm h]
  | cons entry rest ih =>
    obtain ⟨k, value⟩ := entry
    by_cases same : k = key
    · subst same
      by_cases h : other = k
      · simp [alter, find?, h]
      · simp [alter, find?, h, Ne.symm h]
    · by_cases h : k = other
      · subst h
        simp [alter, find?, same]
      · simp [alter, find?, same, h, ih]

theorem keys_alter (key : κ) (change : Option α → α) (entries : List (κ × α)) :
    (alter key change entries).map Prod.fst =
      if key ∈ entries.map Prod.fst then entries.map Prod.fst
      else entries.map Prod.fst ++ [key] := by
  induction entries with
  | nil => simp [alter]
  | cons entry rest ih =>
    obtain ⟨k, value⟩ := entry
    by_cases same : k = key
    · simp [alter, same]
    · simp only [alter, if_neg same, List.map_cons, ih, List.mem_cons, Ne.symm same, false_or]
      split <;> simp

theorem nodup_alter (key : κ) (change : Option α → α) {entries : List (κ × α)}
    (h : (entries.map Prod.fst).Nodup) : ((alter key change entries).map Prod.fst).Nodup := by
  rw [keys_alter]
  split
  · exact h
  · next fresh =>
    rw [List.nodup_append]
    refine ⟨h, by simp, ?_⟩
    intro a member b last
    rw [List.mem_singleton] at last
    subst last
    rintro rfl
    exact fresh member

end Entries

/-! ## Dictionaries -/

/-- A dictionary in insertion order. -/
structure Dict (κ α : Type) where
  /-- The entries, the key that came first in front. -/
  entries : List (κ × α)
  /-- No key has two entries. -/
  nodup : (entries.map Prod.fst).Nodup
  deriving DecidableEq

namespace Dict

/-- The dictionary without entries. -/
def empty : Dict κ α :=
  ⟨[], List.nodup_nil⟩

instance : Inhabited (Dict κ α) :=
  ⟨empty⟩

/-- The keys in order. -/
def keys (dict : Dict κ α) : List κ :=
  dict.entries.map Prod.fst

/-- The number of keys. -/
def size (dict : Dict κ α) : Nat :=
  dict.entries.length

/-- Whether there is no entry. -/
def isEmpty (dict : Dict κ α) : Bool :=
  dict.entries.isEmpty

@[ext] theorem ext {left right : Dict κ α} (h : left.entries = right.entries) : left = right := by
  cases left
  cases right
  cases h
  rfl

@[simp] theorem keys_empty : (empty : Dict κ α).keys = [] := rfl

theorem size_eq_length_keys (dict : Dict κ α) : dict.size = dict.keys.length := by
  simp [size, keys]

theorem nodup_entries (dict : Dict κ α) : dict.entries.Nodup :=
  List.Pairwise.of_map Prod.fst (fun _ _ ne same => ne (congrArg Prod.fst same)) dict.nodup

variable [DecidableEq κ]

/-- The value under a key. -/
def get? (dict : Dict κ α) (key : κ) : Option α :=
  Entries.find? key dict.entries

/-- Change the value under `key` in place; an absent key goes to the end. -/
def alter (dict : Dict κ α) (key : κ) (change : Option α → α) : Dict κ α :=
  ⟨Entries.alter key change dict.entries, Entries.nodup_alter key change dict.nodup⟩

/-- Set the value under `key`: in place for a known key, at the end for a new one. -/
def insert (dict : Dict κ α) (key : κ) (value : α) : Dict κ α :=
  dict.alter key fun _ => value

/-- Insert the entries of a list from left to right, so that the last value of a repeated key
stands at the place of its first. -/
def ofList (entries : List (κ × α)) : Dict κ α :=
  entries.foldl (fun dict entry => dict.insert entry.1 entry.2) empty

/-- Whether two dictionaries hold the same keys with the same values, in whatever order. -/
def agrees [DecidableEq α] (left right : Dict κ α) : Bool :=
  left.size = right.size &&
    left.entries.all fun entry => right.get? entry.1 = some entry.2

@[simp] theorem get?_empty (key : κ) : (empty : Dict κ α).get? key = none := rfl

theorem get?_alter (dict : Dict κ α) (key other : κ) (change : Option α → α) :
    (dict.alter key change).get? other =
      if other = key then some (change (dict.get? key)) else dict.get? other :=
  Entries.find?_alter key other change dict.entries

theorem keys_alter (dict : Dict κ α) (key : κ) (change : Option α → α) :
    (dict.alter key change).keys =
      if key ∈ dict.keys then dict.keys else dict.keys ++ [key] :=
  Entries.keys_alter key change dict.entries

theorem get?_insert (dict : Dict κ α) (key other : κ) (value : α) :
    (dict.insert key value).get? other = if other = key then some value else dict.get? other :=
  get?_alter dict key other fun _ => value

theorem keys_insert (dict : Dict κ α) (key : κ) (value : α) :
    (dict.insert key value).keys =
      if key ∈ dict.keys then dict.keys else dict.keys ++ [key] :=
  keys_alter dict key fun _ => value

theorem get?_eq_none_of_not_mem {dict : Dict κ α} {key : κ} (h : key ∉ dict.keys) :
    dict.get? key = none :=
  Entries.find?_eq_none h

theorem mem_entries_of_get? {dict : Dict κ α} {key : κ} {value : α}
    (h : dict.get? key = some value) : (key, value) ∈ dict.entries :=
  Entries.mem_of_find?_eq_some h

end Dict

end DocumentQuery
