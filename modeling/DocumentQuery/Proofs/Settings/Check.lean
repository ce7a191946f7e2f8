import DocumentQuery.Settings.Basic

/-!
Which names settings reserve, and which settings are accepted.

`Settings.check_eq_ok_iff` says what the check comes to: no reserved name is empty, no two are the
same, and both defaults for paging are at least one.
-/

namespace DocumentQuery.Settings

/-- All five names of settings are reserved. -/
theorem reserves_keys (settings : Settings) :
    settings.reserves settings.pageKey = true ∧ settings.reserves settings.limitKey = true ∧
      settings.reserves settings.sortKey = true ∧ settings.reserves settings.operatorKey = true ∧
      settings.reserves settings.fieldsKey = true := by
  simp [reserves_iff]

theorem checkKeys_eq_ok_iff (earlier : List String) (named : List (String × String)) :
    checkKeys earlier named = .ok () ↔
      (∀ key ∈ named.map Prod.snd, key ≠ "" ∧ key ∉ earlier) ∧ (named.map Prod.snd).Nodup := by
  induction named generalizing earlier with
  | nil => simp [checkKeys]
  | cons entry rest ih =>
    obtain ⟨setting, key⟩ := entry
    rw [checkKeys]
    by_cases empty : key = ""
    · simp [empty]
    by_cases repeated : key ∈ earlier
    · simp [empty, repeated]
    rw [if_neg empty, if_neg repeated, ih]
    simp only [List.map_cons, List.mem_cons, List.nodup_cons, forall_eq_or_imp, not_or]
    constructor
    · rintro ⟨later, distinct⟩
      refine ⟨⟨⟨empty, repeated⟩, fun other member => ?_⟩, fun member => ?_, distinct⟩
      · exact ⟨(later other member).1, (later other member).2.2⟩
      · exact (later key member).2.1 rfl
    · rintro ⟨⟨_, later⟩, fresh, distinct⟩
      refine ⟨fun other member => ⟨(later other member).1, ?_, (later other member).2⟩, distinct⟩
      rintro rfl
      exact fresh member

/-- The check by its outcomes: names before numbers, the page before the limit. -/
theorem check_eq (settings : Settings) : settings.check =
    match checkKeys [] settings.reservedKeys with
    | .error fault => .error fault
    | .ok () =>
      if settings.defaultPage < 1 then .error (.invalidDefaultPage settings.defaultPage)
      else if settings.defaultLimit < 1 then .error (.invalidDefaultLimit settings.defaultLimit)
      else .ok () := by
  unfold check
  cases checkKeys [] settings.reservedKeys with
  | error fault => rfl
  | ok =>
    by_cases page : settings.defaultPage < 1
    · rw [if_pos page]
      simp only [if_pos page]
      rfl
    · rw [if_neg page]
      simp only [if_neg page]
      rfl

/-- The check accepts settings with five names that are not empty and differ from each other, and
with defaults of at least one. -/
theorem check_eq_ok_iff {settings : Settings} : settings.check = .ok () ↔
    (∀ key ∈ settings.reservedKeys.map Prod.snd, key ≠ "") ∧
      (settings.reservedKeys.map Prod.snd).Nodup ∧
      1 ≤ settings.defaultPage ∧ 1 ≤ settings.defaultLimit := by
  have names := checkKeys_eq_ok_iff [] settings.reservedKeys
  simp only [List.not_mem_nil, not_false_eq_true, and_true] at names
  rw [check_eq, ← and_assoc, ← names]
  cases checkKeys [] settings.reservedKeys with
  | error fault => simp
  | ok =>
    by_cases page : settings.defaultPage < 1
    · have bad : ¬ 1 ≤ settings.defaultPage := by omega
      simp [page, bad]
    · by_cases limit : settings.defaultLimit < 1
      · have bad : ¬ 1 ≤ settings.defaultLimit := by omega
        simp [page, limit, bad]
      · have good : 1 ≤ settings.defaultPage ∧ 1 ≤ settings.defaultLimit := by omega
        simp [page, limit, good]

/-- The names of accepted settings, two by two. -/
theorem keys_ne_of_check {settings : Settings} (valid : settings.check = .ok ()) :
    settings.pageKey ≠ settings.limitKey ∧ settings.pageKey ≠ settings.sortKey ∧
      settings.pageKey ≠ settings.operatorKey ∧ settings.pageKey ≠ settings.fieldsKey ∧
      settings.limitKey ≠ settings.sortKey ∧ settings.limitKey ≠ settings.operatorKey ∧
      settings.limitKey ≠ settings.fieldsKey ∧ settings.sortKey ≠ settings.operatorKey ∧
      settings.sortKey ≠ settings.fieldsKey ∧ settings.operatorKey ≠ settings.fieldsKey := by
  obtain ⟨_, distinct, _⟩ := check_eq_ok_iff.mp valid
  simp only [reservedKeys, List.map_cons, List.map_nil, List.nodup_cons, List.mem_cons,
    List.not_mem_nil, or_false, not_or] at distinct
  obtain ⟨⟨a, b, c, d⟩, ⟨e, f, g⟩, ⟨h, i⟩, j, _⟩ := distinct
  exact ⟨a, b, c, d, e, f, g, h, i, j⟩

end DocumentQuery.Settings
