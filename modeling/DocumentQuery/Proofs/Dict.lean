import DocumentQuery.Dict
import Mathlib.Data.List.Induction
import Mathlib.Data.List.Nodup
import Mathlib.Data.List.Perm.Subperm

/-!
Dictionaries compared with each other, changed in place, without one of their keys, with a key under
another name, and put one after another.

Two dictionaries agree when their entries are the same up to their order (`Dict.agrees_iff_perm`).
A change to the value of a key leaves the entries before and after it as they are
(`Dict.entries_alter_of_split`).
`Dict.without` takes out the entry of one key, so two dictionaries that are equal without a key
differ at most in that entry: in its value, in its place, or in whether it is there at all.
`Dict.rename` gives a key another name and leaves its value and all places as they are.
`Dict.extend` inserts the entries of a second dictionary in order. Where the two share no key,
`entries_extend` says that the entries of the second follow those of the first. In the dictionary of a
list each key stands where it came first (`Dict.keys_ofList`), with the value with which it came last
(`Dict.get?_ofList_eq_some_iff`).
-/

namespace DocumentQuery

/-! ## Lists of keys -/

section Keys

variable {κ : Type} [BEq κ] [LawfulBEq κ]

theorem eraseDups_of_nodup {keys : List κ} (distinct : keys.Nodup) :
    keys.eraseDups = keys := by
  induction keys with
  | nil => rfl
  | cons key keys ih =>
    rw [List.nodup_cons] at distinct
    have others : keys.filter (fun other => !other == key) = keys := by
      rw [List.filter_eq_self]
      intro other member
      have ne : other ≠ key := by
        rintro rfl
        exact distinct.1 member
      simpa using ne
    rw [List.eraseDups_cons, others, ih distinct.2]

theorem eraseDups_append_singleton (keys : List κ) (key : κ) :
    (keys ++ [key]).eraseDups =
      if key ∈ keys then keys.eraseDups else keys.eraseDups ++ [key] := by
  rw [List.eraseDups_append]
  split <;> simp [List.removeAll, List.eraseDups_cons, *]

end Keys

variable {κ α : Type} [DecidableEq κ]

/-! ## Lists of entries -/

namespace Entries

theorem alter_of_fresh {key : κ} {entries : List (κ × α)} (change : Option α → α)
    (fresh : key ∉ entries.map Prod.fst) :
    alter key change entries = entries ++ [(key, change none)] := by
  induction entries with
  | nil => rfl
  | cons entry rest ih =>
    obtain ⟨k, value⟩ := entry
    rw [List.map_cons, List.mem_cons, not_or] at fresh
    rw [alter, if_neg (Ne.symm fresh.1), ih fresh.2, List.cons_append]

theorem alter_of_split {key : κ} {value : α} {before : List (κ × α)} (change : Option α → α)
    (after : List (κ × α)) (fresh : key ∉ before.map Prod.fst) :
    alter key change (before ++ (key, value) :: after) =
      before ++ (key, change (some value)) :: after := by
  induction before with
  | nil => rw [List.nil_append, List.nil_append, alter, if_pos rfl]
  | cons entry rest ih =>
    obtain ⟨k, other⟩ := entry
    rw [List.map_cons, List.mem_cons, not_or] at fresh
    rw [List.cons_append, alter, if_neg (Ne.symm fresh.1), ih fresh.2, List.cons_append]

/-- Looking for a key passes over entries of other keys. -/
theorem find?_filter_ne {key other : κ} (ne : other ≠ key) (entries : List (κ × α)) :
    find? other (entries.filter fun entry => entry.1 ≠ key) = find? other entries := by
  induction entries with
  | nil => rfl
  | cons entry rest ih =>
    obtain ⟨k, value⟩ := entry
    by_cases same : k = key
    · subst same
      rw [List.filter_cons_of_neg (by simp), ih, find?, if_neg (Ne.symm ne)]
    · rw [List.filter_cons_of_pos (by simpa using same), find?, find?, ih]

theorem filter_ne_alter (key : κ) (change : Option α → α) (entries : List (κ × α)) :
    (alter key change entries).filter (fun entry => entry.1 ≠ key) =
      entries.filter fun entry => entry.1 ≠ key := by
  induction entries with
  | nil => simp [alter]
  | cons entry rest ih =>
    obtain ⟨k, value⟩ := entry
    by_cases same : k = key
    · subst same
      simp [alter]
    · rw [alter, if_neg same, List.filter_cons_of_pos (by simpa using same),
        List.filter_cons_of_pos (by simpa using same), ih]

/-- Looking for a key passes over entries of other keys, also where these change their names. -/
theorem find?_map_rename {old new other : κ} (notOld : other ≠ old) (notNew : other ≠ new)
    (entries : List (κ × α)) :
    find? other (entries.map fun entry => if entry.1 = old then (new, entry.2) else entry) =
      find? other entries := by
  induction entries with
  | nil => rfl
  | cons entry rest ih =>
    obtain ⟨k, value⟩ := entry
    rw [List.map_cons]
    by_cases same : k = old
    · rw [if_pos same, find?, if_neg (Ne.symm notNew), ih, find?, same, if_neg (Ne.symm notOld)]
    · rw [if_neg same, find?, find?, ih]

theorem find?_of_mem {key : κ} {value : α} {entries : List (κ × α)}
    (distinct : (entries.map Prod.fst).Nodup) (member : (key, value) ∈ entries) :
    find? key entries = some value := by
  induction entries with
  | nil => cases member
  | cons entry rest ih =>
    obtain ⟨k, other⟩ := entry
    rw [List.map_cons, List.nodup_cons] at distinct
    rcases List.mem_cons.mp member with here | later
    · cases here
      rw [find?, if_pos rfl]
    · have ne : k ≠ key := by
        rintro rfl
        exact distinct.1 (List.mem_map.mpr ⟨_, later, rfl⟩)
      rw [find?, if_neg ne, ih distinct.2 later]

end Entries

namespace Dict

/-! ## Comparing -/

theorem get?_eq_some_iff {dict : Dict κ α} {key : κ} {value : α} :
    dict.get? key = some value ↔ (key, value) ∈ dict.entries :=
  ⟨mem_entries_of_get?, Entries.find?_of_mem dict.nodup⟩

/-- A dictionary whose values are given by its keys is the list of its keys with these values. -/
theorem entries_eq_map_keys {dict : Dict κ α} {value : κ → α}
    (values : ∀ key ∈ dict.keys, dict.get? key = some (value key)) :
    dict.entries = dict.keys.map fun key => (key, value key) := by
  have each : ∀ entry ∈ dict.entries, (entry.1, value entry.1) = entry := by
    intro entry member
    have held := values entry.1 (List.mem_map_of_mem member)
    rw [get?_eq_some_iff.mpr member] at held
    rw [← Option.some.inj held]
  rw [keys, List.map_map]
  exact ((List.map_congr_left each).trans (List.map_id _)).symm

/-- The order of the entries plays no part in looking for a key. -/
theorem get?_of_perm {left right : Dict κ α} (perm : left.entries.Perm right.entries) (key : κ) :
    left.get? key = right.get? key := by
  apply Option.ext
  intro value
  rw [get?_eq_some_iff, get?_eq_some_iff]
  exact perm.mem_iff

/-- Dictionaries agree when they have the same entries in some order. -/
theorem agrees_iff_perm [DecidableEq α] {left right : Dict κ α} :
    left.agrees right = true ↔ left.entries.Perm right.entries := by
  unfold agrees size
  simp only [Bool.and_eq_true, decide_eq_true_eq, List.all_eq_true, get?_eq_some_iff]
  constructor
  · rintro ⟨sizes, held⟩
    have included : List.Subperm left.entries right.entries :=
      left.nodup_entries.subperm fun _ => held _
    exact included.perm_of_length_le (Nat.le_of_eq sizes.symm)
  · intro perm
    exact ⟨perm.length_eq, fun _ => perm.mem_iff.mp⟩

/-! ## In place -/

/-- A key with a value has its entry between entries of other keys. -/
theorem exists_split_of_get? {dict : Dict κ α} {key : κ} {value : α}
    (found : dict.get? key = some value) :
    ∃ before after, dict.entries = before ++ (key, value) :: after :=
  List.append_of_mem (get?_eq_some_iff.mp found)

/-- A change to the value of a key leaves all other entries where they are. -/
theorem entries_alter_of_split {dict : Dict κ α} {key : κ} {value : α} {before after : List (κ × α)}
    (split : dict.entries = before ++ (key, value) :: after) (change : Option α → α) :
    (dict.alter key change).entries = before ++ (key, change (some value)) :: after := by
  have distinct := dict.nodup
  rw [split, List.map_append, List.map_cons, List.nodup_append] at distinct
  have fresh : key ∉ before.map Prod.fst := fun member =>
    distinct.2.2 key member key List.mem_cons_self rfl
  show Entries.alter key change dict.entries = _
  rw [split, Entries.alter_of_split change after fresh]

/-- There is one place in the entries for the values that are inserted under a key. -/
theorem exists_split_insert (dict : Dict κ α) (key : κ) :
    ∃ before after, ∀ value, (dict.insert key value).entries = before ++ (key, value) :: after := by
  by_cases known : key ∈ dict.keys
  · obtain ⟨⟨_, held⟩, member, rfl⟩ := List.mem_map.mp known
    obtain ⟨before, after, split⟩ := exists_split_of_get? (get?_eq_some_iff.mpr member)
    exact ⟨before, after, fun value => entries_alter_of_split split _⟩
  · exact ⟨dict.entries, [], fun value => Entries.alter_of_fresh _ known⟩

/-! ## Without a key -/

/-- The dictionary without the entry of `key`; all other entries stay where they are. -/
def without (dict : Dict κ α) (key : κ) : Dict κ α where
  entries := dict.entries.filter fun entry => entry.1 ≠ key
  nodup := dict.nodup.sublist (List.filter_sublist.map _)

theorem entries_without (dict : Dict κ α) (key : κ) :
    (dict.without key).entries = dict.entries.filter fun entry => entry.1 ≠ key := rfl

theorem get?_without {key other : κ} (ne : other ≠ key) (dict : Dict κ α) :
    (dict.without key).get? other = dict.get? other :=
  Entries.find?_filter_ne ne dict.entries

theorem get?_without_self (dict : Dict κ α) (key : κ) : (dict.without key).get? key = none := by
  apply get?_eq_none_of_not_mem
  simp [keys, entries_without]

/-- Dictionaries that are equal without a key have the same values under all other keys. -/
theorem get?_eq_of_without_eq {left right : Dict κ α} {key other : κ}
    (same : left.without key = right.without key) (ne : other ≠ key) :
    left.get? other = right.get? other := by
  rw [← get?_without ne left, same, get?_without ne right]

/-- Entries that a selection keeps are the same where it keeps none of the key. -/
theorem filter_entries_eq_of_without_eq {left right : Dict κ α} {key : κ} (keep : κ → Bool)
    (drops : keep key = false) (same : left.without key = right.without key) :
    (left.entries.filter fun entry => keep entry.1) =
      right.entries.filter fun entry => keep entry.1 := by
  have pass : ∀ dict : Dict κ α, (dict.entries.filter fun entry => keep entry.1) =
      (dict.without key).entries.filter fun entry => keep entry.1 := by
    intro dict
    rw [entries_without, List.filter_filter]
    apply List.filter_congr
    intro entry _
    by_cases here : entry.1 = key
    · simp [here, drops]
    · simp [here]
  rw [pass left, pass right, same]

theorem without_alter (dict : Dict κ α) (key : κ) (change : Option α → α) :
    (dict.alter key change).without key = dict.without key :=
  ext (Entries.filter_ne_alter key change dict.entries)

theorem without_insert (dict : Dict κ α) (key : κ) (value : α) :
    (dict.insert key value).without key = dict.without key :=
  without_alter dict key _

theorem without_without (dict : Dict κ α) (key : κ) :
    (dict.without key).without key = dict.without key := by
  apply ext
  simp only [entries_without, List.filter_filter, Bool.and_self]

/-! ## Under another name -/

/-- The dictionary with the key `old` under the name `new`; all entries stay where they are. -/
def rename (dict : Dict κ α) (old new : κ) (fresh : new ∉ dict.keys) : Dict κ α where
  entries := dict.entries.map fun entry => if entry.1 = old then (new, entry.2) else entry
  nodup := by
    have names : (dict.entries.map fun entry => if entry.1 = old then (new, entry.2) else entry).map
        Prod.fst = dict.keys.map fun key => if key = old then new else key := by
      rw [keys, List.map_map, List.map_map]
      apply List.map_congr_left
      intro entry _
      show (if entry.1 = old then (new, entry.2) else entry).1 = if entry.1 = old then new else entry.1
      split <;> rfl
    rw [names]
    refine dict.nodup.map_on fun left leftKey right rightKey same => ?_
    split at same <;> split at same
    · next isLeft isRight => rw [isLeft, isRight]
    · exact absurd (same ▸ rightKey) fresh
    · exact absurd (same ▸ leftKey) fresh
    · exact same

theorem entries_rename {dict : Dict κ α} {old new : κ} (fresh : new ∉ dict.keys) :
    (dict.rename old new fresh).entries =
      dict.entries.map fun entry => if entry.1 = old then (new, entry.2) else entry := rfl

theorem get?_rename {dict : Dict κ α} {old new other : κ} (fresh : new ∉ dict.keys)
    (notOld : other ≠ old) (notNew : other ≠ new) :
    (dict.rename old new fresh).get? other = dict.get? other :=
  Entries.find?_map_rename notOld notNew dict.entries

/-! ## One after another -/

/-- The dictionary with the entries of `more` inserted in their order. -/
def extend (dict more : Dict κ α) : Dict κ α :=
  more.entries.foldl (fun dict entry => dict.insert entry.1 entry.2) dict

theorem entries_insert_of_fresh {dict : Dict κ α} {key : κ} (value : α)
    (fresh : key ∉ dict.keys) :
    (dict.insert key value).entries = dict.entries ++ [(key, value)] :=
  Entries.alter_of_fresh _ fresh

/-- Inserting entries with new and distinct keys puts them at the end in their order. -/
theorem entries_foldl_insert {entries : List (κ × α)} :
    ∀ {dict : Dict κ α}, (entries.map Prod.fst).Nodup →
      (∀ key ∈ entries.map Prod.fst, key ∉ dict.keys) →
      (entries.foldl (fun dict entry => dict.insert entry.1 entry.2) dict).entries =
        dict.entries ++ entries := by
  induction entries with
  | nil =>
    intro dict _ _
    rw [List.foldl_nil, List.append_nil]
  | cons entry rest ih =>
    intro dict distinct fresh
    rw [List.map_cons, List.nodup_cons] at distinct
    have first : entry.1 ∉ dict.keys := fresh entry.1 (by simp)
    have later : ∀ key ∈ rest.map Prod.fst, key ∉ (dict.insert entry.1 entry.2).keys := by
      intro key member
      rw [keys_insert, if_neg first, List.mem_append, List.mem_singleton, not_or]
      refine ⟨fresh key (List.mem_cons_of_mem _ member), ?_⟩
      rintro rfl
      exact distinct.1 member
    rw [List.foldl_cons, ih distinct.2 later, entries_insert_of_fresh entry.2 first,
      List.append_assoc, List.singleton_append]

/-! ## From a list -/

theorem ofList_append_singleton (entries : List (κ × α)) (entry : κ × α) :
    ofList (entries ++ [entry]) = (ofList entries).insert entry.1 entry.2 := by
  unfold ofList
  rw [List.foldl_append]
  rfl

/-- A key stands where it came first. -/
theorem keys_ofList (entries : List (κ × α)) :
    (ofList entries).keys = (entries.map Prod.fst).eraseDups := by
  induction entries using List.reverseRecOn with
  | nil => rfl
  | append_singleton entries entry ih =>
    rw [ofList_append_singleton, keys_insert, ih, List.map_append, List.map_singleton,
      eraseDups_append_singleton]
    simp only [List.mem_eraseDups]

/-- A key has the value with which it came last. -/
theorem get?_ofList_eq_some_iff {entries : List (κ × α)} {key : κ} {value : α} :
    (ofList entries).get? key = some value ↔
      ∃ before after, entries = before ++ (key, value) :: after ∧ key ∉ after.map Prod.fst := by
  induction entries using List.reverseRecOn with
  | nil =>
    rw [ofList, List.foldl_nil, get?_empty]
    simp
  | append_singleton entries entry ih =>
    rw [ofList_append_singleton, get?_insert]
    constructor
    · intro found
      split at found
      · next here =>
        obtain rfl := Option.some.inj found
        exact ⟨entries, [], by rw [here], List.not_mem_nil⟩
      · next other =>
        obtain ⟨before, after, rfl, fresh⟩ := ih.mp found
        refine ⟨before, after ++ [entry], by simp, ?_⟩
        simp only [List.map_append, List.mem_append, not_or]
        exact ⟨fresh, by simpa using other⟩
    · rintro ⟨before, after, split, fresh⟩
      rcases List.eq_nil_or_concat after with rfl | ⟨after, last, rfl⟩
      · obtain ⟨_, rfl⟩ := List.append_singleton_inj.mp split
        rw [if_pos rfl]
      · rw [List.concat_eq_append] at split fresh
        rw [← List.cons_append, ← List.append_assoc] at split
        obtain ⟨rfl, rfl⟩ := List.append_singleton_inj.mp split
        rw [List.map_append, List.mem_append, not_or] at fresh
        rw [if_neg (by simpa using fresh.2)]
        exact ih.mpr ⟨before, after, rfl, fresh.1⟩

/-- A list with distinct keys is its own dictionary. -/
theorem entries_ofList {entries : List (κ × α)} (distinct : (entries.map Prod.fst).Nodup) :
    (ofList entries).entries = entries := by
  have fresh : ∀ key ∈ entries.map Prod.fst, key ∉ (empty : Dict κ α).keys := by
    rw [keys_empty]
    exact fun _ _ => List.not_mem_nil
  unfold ofList
  rw [entries_foldl_insert distinct fresh]
  rfl

theorem entries_ofList_map {keys : List κ} (distinct : keys.Nodup) (value : κ → α) :
    (ofList (keys.map fun key => (key, value key))).entries =
      keys.map fun key => (key, value key) := by
  have names : (keys.map fun key => (key, value key)).map Prod.fst = keys := by
    rw [List.map_map]
    exact List.map_id keys
  apply entries_ofList
  rw [names]
  exact distinct

/-- A dictionary that shares no key with another goes after it as a whole. -/
theorem entries_extend {dict more : Dict κ α} (disjoint : ∀ key ∈ more.keys, key ∉ dict.keys) :
    (dict.extend more).entries = dict.entries ++ more.entries :=
  entries_foldl_insert more.nodup disjoint

end Dict

end DocumentQuery
