import DocumentQuery.Proofs.Settings.Check

/-!
What is first wrong with settings.

The names are looked at one after the other, each for being empty and then for being one of those
before it; after the names come the page and the limit. `Settings.check_eq_error_iff` says that the
check reports what comes first in that order, and `Settings.check_eq_ok_iff_isValid` that it accepts
the settings when there is nothing to report.
-/

namespace DocumentQuery.Settings

/-! ## Names -/

/-- Named keys that are not empty and differ from each other. -/
def AreKeys (named : List (String × String)) : Prop :=
  (∀ key ∈ named.map Prod.snd, key ≠ "") ∧ (named.map Prod.snd).Nodup

/-- What is wrong with a named key after some earlier keys. -/
inductive KeyFault (earlier : List String) : String × String → SettingsError → Prop
  | empty (setting : String) : KeyFault earlier (setting, "") (.emptyKey setting)
  | repeated {setting key : String} : key ≠ "" → key ∈ earlier →
      KeyFault earlier (setting, key) (.duplicateKey key)

theorem KeyFault.mono {left right : List String} {entry : String × String} {fault : SettingsError}
    (within : ∀ key ∈ left, key ∈ right) (wrong : KeyFault left entry fault) :
    KeyFault right entry fault := by
  cases wrong with
  | empty setting => exact .empty setting
  | repeated nonempty member => exact .repeated nonempty (within _ member)

theorem keyFault_congr {left right : List String} {entry : String × String} {fault : SettingsError}
    (same : ∀ key, key ∈ left ↔ key ∈ right) : KeyFault left entry fault ↔ KeyFault right entry fault :=
  ⟨KeyFault.mono fun key => (same key).mp, KeyFault.mono fun key => (same key).mpr⟩

theorem checkKeys_cons_eq_ok_iff {earlier : List String} {entry : String × String}
    {rest : List (String × String)} :
    checkKeys earlier (entry :: rest) = .ok () ↔
      (entry.2 ≠ "" ∧ entry.2 ∉ earlier) ∧ checkKeys (entry.2 :: earlier) rest = .ok () := by
  obtain ⟨setting, key⟩ := entry
  rw [checkKeys]
  by_cases empty : key = ""
  · simp [empty]
  by_cases repeated : key ∈ earlier
  · simp [empty, repeated]
  · simp [empty, repeated]

/-- A key is wrong, or it is not and something is wrong further on. -/
theorem checkKeys_cons_eq_error_iff {earlier : List String} {entry : String × String}
    {rest : List (String × String)} {fault : SettingsError} :
    checkKeys earlier (entry :: rest) = .error fault ↔
      KeyFault earlier entry fault ∨
        (entry.2 ≠ "" ∧ entry.2 ∉ earlier) ∧ checkKeys (entry.2 :: earlier) rest = .error fault := by
  obtain ⟨setting, key⟩ := entry
  rw [checkKeys]
  constructor
  · intro reported
    by_cases empty : key = ""
    · rw [if_pos empty] at reported
      obtain rfl := Except.error.inj reported
      subst empty
      exact Or.inl (.empty setting)
    rw [if_neg empty] at reported
    by_cases repeated : key ∈ earlier
    · rw [if_pos repeated] at reported
      obtain rfl := Except.error.inj reported
      exact Or.inl (.repeated empty repeated)
    · rw [if_neg repeated] at reported
      exact Or.inr ⟨⟨empty, repeated⟩, reported⟩
  · intro outcome
    rcases outcome with wrong | ⟨⟨nonempty, fresh⟩, reported⟩
    · cases wrong with
      | empty => rw [if_pos rfl]
      | repeated nonempty member => rw [if_neg nonempty, if_pos member]
    · rw [if_neg nonempty, if_neg fresh, reported]

/-- The first key that is wrong stands behind keys that are not, and is reported. -/
theorem checkKeys_eq_error_iff {earlier : List String} {named : List (String × String)}
    {fault : SettingsError} :
    checkKeys earlier named = .error fault ↔
      ∃ before entry after, named = before ++ entry :: after ∧ checkKeys earlier before = .ok () ∧
        KeyFault (before.map Prod.snd ++ earlier) entry fault := by
  induction named generalizing earlier with
  | nil => simp [checkKeys]
  | cons first rest ih =>
    -- the check collects earlier keys from the back, so only their membership can be compared
    have moved (before : List (String × String)) (key : String) :
        key ∈ before.map Prod.snd ++ first.2 :: earlier ↔
          key ∈ (first :: before).map Prod.snd ++ earlier := by
      simp only [List.map_cons, List.cons_append, List.mem_append, List.mem_cons]
      exact or_left_comm
    rw [checkKeys_cons_eq_error_iff, ih]
    constructor
    · intro outcome
      rcases outcome with wrong | ⟨fine, before, entry, after, rfl, earlierFine, wrong⟩
      · exact ⟨[], first, rest, rfl, rfl, wrong⟩
      · refine ⟨first :: before, entry, after, rfl, checkKeys_cons_eq_ok_iff.mpr ⟨fine, earlierFine⟩, ?_⟩
        exact (keyFault_congr (moved before)).mp wrong
    · intro found
      obtain ⟨before, entry, after, split, earlierFine, wrong⟩ := found
      cases before with
      | nil =>
        obtain ⟨rfl, rfl⟩ := List.cons.inj split
        exact Or.inl wrong
      | cons head before =>
        obtain ⟨rfl, rfl⟩ := List.cons.inj split
        obtain ⟨fine, earlierFine⟩ := checkKeys_cons_eq_ok_iff.mp earlierFine
        exact Or.inr ⟨fine, before, entry, after, rfl, earlierFine,
          (keyFault_congr (moved before)).mpr wrong⟩

theorem checkKeys_nil_eq_ok_iff {named : List (String × String)} :
    checkKeys [] named = .ok () ↔ AreKeys named := by
  rw [checkKeys_eq_ok_iff]
  simp only [List.not_mem_nil, not_false_eq_true, and_true]
  rfl

/-! ## Settings -/

/-- Settings with nothing wrong: five keys, and defaults of at least one. -/
structure IsValid (settings : Settings) : Prop where
  keys : AreKeys settings.reservedKeys
  page : 1 ≤ settings.defaultPage
  limit : 1 ≤ settings.defaultLimit

/-- What is wrong with settings while nothing before it is: the reserved keys in their order, then the
page, then the limit. -/
inductive IsFirstFault (settings : Settings) : SettingsError → Prop
  | key {before after : List (String × String)} {entry : String × String} {fault : SettingsError} :
      settings.reservedKeys = before ++ entry :: after → AreKeys before →
      KeyFault (before.map Prod.snd) entry fault → IsFirstFault settings fault
  | page : AreKeys settings.reservedKeys → settings.defaultPage < 1 →
      IsFirstFault settings (.invalidDefaultPage settings.defaultPage)
  | limit : AreKeys settings.reservedKeys → 1 ≤ settings.defaultPage → settings.defaultLimit < 1 →
      IsFirstFault settings (.invalidDefaultLimit settings.defaultLimit)

theorem check_eq_ok_iff_isValid {settings : Settings} : settings.check = .ok () ↔ settings.IsValid := by
  rw [check_eq_ok_iff]
  constructor
  · rintro ⟨nonempty, distinct, page, limit⟩
    exact ⟨⟨nonempty, distinct⟩, page, limit⟩
  · rintro ⟨⟨nonempty, distinct⟩, page, limit⟩
    exact ⟨nonempty, distinct, page, limit⟩

theorem check_eq_error_iff {settings : Settings} {fault : SettingsError} :
    settings.check = .error fault ↔ settings.IsFirstFault fault := by
  rw [check_eq]
  constructor
  · intro reported
    cases names : checkKeys [] settings.reservedKeys with
    | error wrong =>
      simp only [names, Except.error.injEq] at reported
      subst reported
      obtain ⟨before, entry, after, split, fine, wrong⟩ := checkKeys_eq_error_iff.mp names
      rw [List.append_nil] at wrong
      exact .key split (checkKeys_nil_eq_ok_iff.mp fine) wrong
    | ok =>
      have keys := checkKeys_nil_eq_ok_iff.mp names
      simp only [names] at reported
      by_cases page : settings.defaultPage < 1
      · rw [if_pos page] at reported
        obtain rfl := Except.error.inj reported
        exact .page keys page
      rw [if_neg page] at reported
      by_cases limit : settings.defaultLimit < 1
      · rw [if_pos limit] at reported
        obtain rfl := Except.error.inj reported
        exact .limit keys (Nat.not_lt.mp page) limit
      · rw [if_neg limit] at reported
        cases reported
  · intro first
    cases first with
    | key split fine wrong =>
      rw [← List.append_nil (List.map _ _)] at wrong
      have names := checkKeys_eq_error_iff.mpr ⟨_, _, _, split, checkKeys_nil_eq_ok_iff.mpr fine, wrong⟩
      rw [names]
    | page keys page =>
      rw [checkKeys_nil_eq_ok_iff.mpr keys]
      exact if_pos page
    | limit keys page limit =>
      rw [checkKeys_nil_eq_ok_iff.mpr keys]
      exact (if_neg (Nat.not_lt.mpr page)).trans (if_pos limit)

end DocumentQuery.Settings
