import DocumentQuery.Text.Blank

/-!
Text between blanks.

Trimming takes the blanks at both ends away and nothing else: blanks that are put around a text make no
difference (`trim_append`), and a text that neither begins nor ends with one stays as it is
(`trim_of_ends`). The case of letters plays no part in this.
-/

namespace DocumentQuery.Text

/-! ## Letters and digits -/

theorem isBlank_of_isDigit {c : Char} (digit : c.isDigit = true) : isBlank c = false :=
  isBlank_of_isAlphanum (by simp [Char.isAlphanum, digit])

/-- A capital letter is one of 26. -/
theorem toLower_cases (c : Char) : c.toLower = c ∨ ∃ k < 26, c = Char.ofNat (65 + k) := by
  by_cases upper : c.val ≥ 'A'.val ∧ c.val ≤ 'Z'.val
  · obtain ⟨low, high⟩ := upper
    have low' : 65 ≤ c.toNat := UInt32.le_iff_toNat_le.mp low
    have high' : c.toNat ≤ 90 := UInt32.le_iff_toNat_le.mp high
    refine Or.inr ⟨c.toNat - 65, by omega, ?_⟩
    rw [Nat.add_sub_cancel' low', Char.ofNat_toNat]
  · exact Or.inl (dif_neg upper)

theorem isBlank_toLower (c : Char) : isBlank c.toLower = isBlank c := by
  have letters : ∀ k < 26, isBlank (Char.ofNat (65 + k)).toLower = isBlank (Char.ofNat (65 + k)) := by
    decide
  rcases toLower_cases c with same | ⟨k, small, rfl⟩
  · rw [same]
  · exact letters k small

/-! ## One end -/

theorem trimStart_append {before : List Char} (blanks : ∀ c ∈ before, isBlank c = true)
    (text : List Char) : trimStart (before ++ text) = trimStart text :=
  List.dropWhile_append_of_pos blanks

theorem trimEnd_append {after : List Char} (blanks : ∀ c ∈ after, isBlank c = true)
    (text : List Char) : trimEnd (text ++ after) = trimEnd text := by
  have backwards : ∀ c ∈ after.reverse, isBlank c = true := fun c member =>
    blanks c (List.mem_reverse.mp member)
  unfold trimEnd
  rw [List.reverse_append, List.dropWhile_append_of_pos backwards]

theorem trimStart_of_no_blank {text : List Char} (none : ∀ c ∈ text, isBlank c = false) :
    trimStart text = text := by
  cases text with
  | nil => rfl
  | cons c text => exact trimStart_cons_of_not_blank text (none c List.mem_cons_self)

theorem trimEnd_prefix (text : List Char) : trimEnd text <+: text := by
  have suffix : text.reverse.dropWhile isBlank <:+ text.reverse := List.dropWhile_suffix isBlank
  unfold trimEnd
  rw [← List.reverse_suffix, List.reverse_reverse]
  exact suffix

theorem exists_trimStart (text : List Char) :
    ∃ before, text = before ++ trimStart text ∧ ∀ c ∈ before, isBlank c = true :=
  ⟨text.takeWhile isBlank, List.takeWhile_append_dropWhile.symm, List.all_eq_true.mp List.all_takeWhile⟩

theorem exists_trimEnd (text : List Char) :
    ∃ after, text = trimEnd text ++ after ∧ ∀ c ∈ after, isBlank c = true := by
  obtain ⟨before, backwards, blanks⟩ := exists_trimStart text.reverse
  refine ⟨before.reverse, ?_, fun c member => blanks c (List.mem_reverse.mp member)⟩
  unfold trimEnd
  rw [← List.reverse_append]
  exact (List.reverse_eq_iff.mpr backwards.symm).symm

/-! ## Both ends -/

theorem trim_of_no_blank {text : List Char} (none : ∀ c ∈ text, isBlank c = false) :
    trim text = text := by
  have backwards := trimStart_of_no_blank fun c member => none c (List.mem_reverse.mp member)
  unfold trim trimEnd
  unfold trimStart at backwards
  rw [trimStart_of_no_blank none, backwards, List.reverse_reverse]

/-- Blanks around a text are taken away with those that it has at its own ends. -/
theorem trim_append {before after : List Char} (front : ∀ c ∈ before, isBlank c = true)
    (back : ∀ c ∈ after, isBlank c = true) (text : List Char) :
    trim (before ++ (text ++ after)) = trim text := by
  have all : trimStart after = [] := by
    have blank := trimStart_append back []
    rwa [List.append_nil] at blank
  rw [trim, trim, trimStart_append front]
  unfold trimStart at all ⊢
  rw [List.dropWhile_append]
  split
  · next blank => rw [List.isEmpty_iff.mp blank, all]
  · exact trimEnd_append back _

/-- Trimming takes away blanks at both ends, and nothing else. -/
theorem exists_trim (text : List Char) :
    ∃ before after, text = before ++ (trim text ++ after) ∧ (∀ c ∈ before, isBlank c = true) ∧
      ∀ c ∈ after, isBlank c = true := by
  obtain ⟨before, start, front⟩ := exists_trimStart text
  obtain ⟨after, whole, back⟩ := exists_trimEnd (trimStart text)
  exact ⟨before, after, start.trans (congrArg (before ++ ·) whole), front, back⟩

theorem trim_trim (text : List Char) : trim (trim text) = trim text := by
  obtain ⟨before, after, whole, front, back⟩ := exists_trim text
  have same := trim_append front back (trim text)
  rw [← whole] at same
  exact same.symm

theorem mem_of_mem_trim {c : Char} {text : List Char} (member : c ∈ trim text) : c ∈ text := by
  obtain ⟨before, after, whole, _, _⟩ := exists_trim text
  rw [whole]
  exact List.mem_append_right before (List.mem_append_left after member)

theorem length_trim_le (text : List Char) : (trim text).length ≤ text.length := by
  have front : trim text <+: trimStart text := trimEnd_prefix (trimStart text)
  have back : trimStart text <:+ text := List.dropWhile_suffix isBlank
  exact Nat.le_trans front.length_le back.length_le

/-- A text that trimming leaves as it is does not begin with a blank. -/
theorem not_blank_of_trim_eq {c : Char} {text : List Char} (trimmed : trim (c :: text) = c :: text) :
    isBlank c = false := by
  cases blank : isBlank c with
  | false => rfl
  | true =>
    have shorter := length_trim_le text
    rw [trim, trimStart_cons_of_blank text blank, ← trim] at trimmed
    rw [trimmed, List.length_cons] at shorter
    omega

/-- A text that begins and ends with other characters has nothing to take away. -/
theorem trim_of_ends {first last : Char} (text : List Char) (front : isBlank first = false)
    (back : isBlank last = false) : trim (first :: (text ++ [last])) = first :: (text ++ [last]) := by
  rw [trim, trimStart_cons_of_not_blank _ front, ← List.cons_append,
    trimEnd_append_of_not_blank _ back]

end DocumentQuery.Text
