import DocumentQuery.Proofs.Dict
import DocumentQuery.Proofs.Json.Tokens

/-!
Compact text, read back.

The compact text of a value is read as that value, whatever can follow a value after it
(`Json.take?_compact`). Binary64 numbers are left aside; whole numbers have to fit into 64 bits, the
names in an object have to differ, and the nesting must not be deeper than a reader allows.
-/

namespace DocumentQuery.Json

/-! ## Plain values -/

mutual

/-- Whether a value has no binary64 number, no whole number beyond 64 bits and no object with a name
twice, and is nested at most `depth` levels deep. -/
def IsPlain (depth : Nat) : Json → Prop
  | .null => True
  | .bool _ => True
  | .integer n => -2 ^ 63 ≤ n ∧ n < 2 ^ 64
  | .float _ => False
  | .string _ => True
  | .array items => 0 < depth ∧ ArePlain (depth - 1) items
  | .object members => 0 < depth ∧ (members.map Prod.fst).Nodup ∧ AreMembersPlain (depth - 1) members

/-- `IsPlain` for each item. -/
def ArePlain (depth : Nat) : List Json → Prop
  | [] => True
  | item :: items => IsPlain depth item ∧ ArePlain depth items

/-- `IsPlain` for the value of each member. -/
def AreMembersPlain (depth : Nat) : List (String × Json) → Prop
  | [] => True
  | (_, value) :: members => IsPlain depth value ∧ AreMembersPlain depth members

end

theorem isPlain_array {depth : Nat} {items : List Json} (all : ∀ item ∈ items, IsPlain depth item) :
    IsPlain (depth + 1) (.array items) := by
  rw [IsPlain]
  refine ⟨Nat.succ_pos depth, ?_⟩
  induction items with
  | nil =>
    rw [ArePlain]
    trivial
  | cons item items ih =>
    rw [ArePlain]
    exact ⟨all item List.mem_cons_self, ih fun other member => all other (List.mem_cons_of_mem _ member)⟩

theorem isPlain_object {depth : Nat} {members : List (String × Json)}
    (distinct : (members.map Prod.fst).Nodup) (all : ∀ entry ∈ members, IsPlain depth entry.2) :
    IsPlain (depth + 1) (.object members) := by
  rw [IsPlain]
  refine ⟨Nat.succ_pos depth, distinct, ?_⟩
  clear distinct
  induction members with
  | nil =>
    rw [AreMembersPlain]
    trivial
  | cons entry members ih =>
    rw [AreMembersPlain]
    exact ⟨all entry List.mem_cons_self,
      ih fun other member => all other (List.mem_cons_of_mem _ member)⟩

namespace Document

mutual

/-- The document that a value is written as; there is none for a binary64 number. -/
def ofJson : Json → Document
  | .null => .null
  | .bool value => .bool value
  | .integer n => .number (.ofInt n)
  | .float _ => .null
  | .string text => .string (text.toList.map glyph)
  | .array items => .array (ofItems items)
  | .object members => .object (ofMembers members)

/-- `ofJson` for each item. -/
def ofItems : List Json → List Document
  | [] => []
  | item :: items => ofJson item :: ofItems items

/-- `ofJson` for each member. -/
def ofMembers : List (String × Json) → List (List Glyph × Document)
  | [] => []
  | (name, value) :: members => (name.toList.map glyph, ofJson value) :: ofMembers members

end

end Document

/-! ## From text to document -/

theorem write_array (level : Nat) (item : Json) (items : List Json) :
    write .compact level (.array (item :: items)) =
      '[' :: (write .compact (level + 1) item ++ writeItems .compact level items) := by
  rw [write]
  rfl

theorem writeItems_cons (level : Nat) (item : Json) (items : List Json) :
    writeItems .compact level (item :: items) =
      ',' :: (write .compact (level + 1) item ++ writeItems .compact level items) := by
  rw [writeItems]
  rfl

/-- The text of a member, without what stands in front of it. -/
def writeMember (level : Nat) (name : String) (value : Json) : List Char :=
  '"' :: (name.toList.flatMap escape ++ '"' :: ':' :: write .compact (level + 1) value)

theorem write_object (level : Nat) (name : String) (value : Json) (members : List (String × Json)) :
    write .compact level (.object ((name, value) :: members)) =
      '{' :: (writeMember level name value ++ writeMembers .compact level members) := by
  rw [write]
  simp [writeMember, quoted, Layout.compact]

theorem writeMembers_cons (level : Nat) (name : String) (value : Json)
    (members : List (String × Json)) :
    writeMembers .compact level ((name, value) :: members) =
      ',' :: (writeMember level name value ++ writeMembers .compact level members) := by
  rw [writeMembers]
  simp [writeMember, quoted, Layout.compact]

theorem length_le_length_writeMember (level : Nat) (name : String) (value : Json) :
    (write .compact (level + 1) value).length ≤ (writeMember level name value).length := by
  unfold writeMember
  simp only [List.length_cons, List.length_append]
  omega

theorem skipSpaces_cons {c : Char} (visible : isSpace c = false) (text : List Char) :
    skipSpaces (c :: text) = c :: text := by
  simp [skipSpaces, visible]

theorem integer_eq_cons (n : Int) :
    ∃ c text, Text.integer n = c :: text ∧ (c = '-' ∨ c.isDigit = true) := by
  unfold Text.integer
  split
  · exact ⟨'-', _, rfl, Or.inl rfl⟩
  · obtain ⟨c, text, written, digit⟩ := Text.natural_eq_cons n.natAbs
    exact ⟨c, text, written, Or.inr digit⟩

theorem isSpace_of_sign {c : Char} (sign : c = '-' ∨ c.isDigit = true) : isSpace c = false := by
  rcases sign with rfl | digit
  · rfl
  · cases space : isSpace c with
    | false => rfl
    | true =>
      simp only [isSpace, Bool.or_eq_true, beq_iff_eq] at space
      rcases space with ((rfl | rfl) | rfl) | rfl <;> cases digit

/-- A value does not begin with a space or a closing bracket. -/
theorem write_eq_cons {depth : Nat} {value : Json} (plain : IsPlain depth value) (level : Nat) :
    ∃ c text, write .compact level value = c :: text ∧ isSpace c = false ∧ c ≠ ']' := by
  cases value with
  | null =>
    rw [write]
    exact ⟨'n', _, rfl, rfl, by decide⟩
  | bool value =>
    cases value with
    | true =>
      rw [write]
      exact ⟨'t', _, rfl, rfl, by decide⟩
    | false =>
      rw [write]
      exact ⟨'f', _, rfl, rfl, by decide⟩
  | integer n =>
    obtain ⟨c, text, written, sign⟩ := integer_eq_cons n
    rw [write]
    refine ⟨c, text, written, isSpace_of_sign sign, ?_⟩
    rintro rfl
    rcases sign with sign | sign <;> cases sign
  | float x =>
    rw [IsPlain] at plain
    exact plain.elim
  | string text =>
    rw [write]
    exact ⟨'"', _, rfl, rfl, by decide⟩
  | array items =>
    cases items with
    | nil =>
      rw [write]
      exact ⟨'[', _, rfl, rfl, by decide⟩
    | cons item items =>
      rw [write_array]
      exact ⟨'[', _, rfl, rfl, by decide⟩
  | object members =>
    rcases members with _ | ⟨⟨name, value⟩, members⟩
    · rw [write]
      exact ⟨'{', _, rfl, rfl, by decide⟩
    · rw [write_object]
      exact ⟨'{', _, rfl, rfl, by decide⟩

namespace Document

theorem takeWithin?_numeral {c : Char} (sign : c = '-' ∨ c.isDigit = true) (fuel : Nat)
    (text : List Char) :
    takeWithin? (fuel + 1) (c :: text) =
      (takeNumeral? (c :: text)).map fun taken => (.number taken.1, taken.2) := by
  rw [takeWithin?, skipSpaces_cons (isSpace_of_sign sign)]
  -- no other kind of value begins with a hyphen or a digit
  split
  case h_7 => rfl
  all_goals
    next same =>
    obtain ⟨rfl, _⟩ := List.cons.inj same
    rcases sign with sign | sign <;> cases sign

theorem takeWithin?_items {c : Char} (visible : isSpace c = false) (ne : c ≠ ']') (fuel : Nat)
    (text : List Char) :
    takeWithin? (fuel + 1) ('[' :: c :: text) =
      (takeItems? fuel (c :: text)).map fun taken => (.array taken.1, taken.2) := by
  rw [takeWithin?, skipSpaces_cons (by rfl)]
  simp only [skipSpaces_cons visible]
  split
  · next same =>
    obtain ⟨rfl, _⟩ := List.cons.inj same
    exact absurd rfl ne
  · rfl

theorem takeWithin?_members (fuel : Nat) (text : List Char) :
    takeWithin? (fuel + 1) ('{' :: '"' :: text) =
      (takeMembers? fuel ('"' :: text)).map fun taken => (.object taken.1, taken.2) := by
  rw [takeWithin?, skipSpaces_cons (by rfl)]
  simp only [skipSpaces_cons (show isSpace '"' = false by rfl)]
  rfl

theorem takeWithin?_string (fuel : Nat) (text rest : List Char) :
    takeWithin? (fuel + 1) (quoted text ++ rest) = some (.string (text.map glyph), rest) := by
  unfold quoted
  rw [List.cons_append, List.cons_append, takeWithin?, skipSpaces_cons (by rfl), List.append_assoc]
  simp only [List.cons_append, List.nil_append, takeGlyphs?_quoted, Option.map_some]

theorem takeItems?_last {fuel : Nat} {text rest : List Char} {item : Document}
    (taken : takeWithin? fuel text = some (item, ']' :: rest)) :
    takeItems? (fuel + 1) text = some ([item], rest) := by
  rw [takeItems?, taken]
  simp only [Option.bind_eq_bind, Option.bind_some, skipSpaces_cons (show isSpace ']' = false by rfl)]

theorem takeItems?_more {fuel : Nat} {text after rest : List Char} {item : Document}
    {items : List Document} (taken : takeWithin? fuel text = some (item, ',' :: after))
    (others : takeItems? fuel after = some (items, rest)) :
    takeItems? (fuel + 1) text = some (item :: items, rest) := by
  rw [takeItems?, taken]
  simp only [Option.bind_eq_bind, Option.bind_some, skipSpaces_cons (show isSpace ',' = false by rfl),
    others]

theorem takeMembers?_last {level fuel : Nat} {name : String} {value : Json} {text rest : List Char}
    {member : Document}
    (taken : takeWithin? fuel (write .compact (level + 1) value ++ text) = some (member, '}' :: rest)) :
    takeMembers? (fuel + 1) (writeMember level name value ++ text) =
      some ([(name.toList.map glyph, member)], rest) := by
  unfold writeMember
  rw [List.cons_append, takeMembers?, skipSpaces_cons (by rfl), List.append_assoc]
  simp only [List.cons_append, takeGlyphs?_quoted, Option.bind_eq_bind, Option.bind_some,
    skipSpaces_cons (show isSpace ':' = false by rfl), taken,
    skipSpaces_cons (show isSpace '}' = false by rfl)]

theorem takeMembers?_more {level fuel : Nat} {name : String} {value : Json}
    {text after rest : List Char} {member : Document} {members : List (List Glyph × Document)}
    (taken : takeWithin? fuel (write .compact (level + 1) value ++ text) = some (member, ',' :: after))
    (others : takeMembers? fuel after = some (members, rest)) :
    takeMembers? (fuel + 1) (writeMember level name value ++ text) =
      some ((name.toList.map glyph, member) :: members, rest) := by
  unfold writeMember
  rw [List.cons_append, takeMembers?, skipSpaces_cons (by rfl), List.append_assoc]
  simp only [List.cons_append, takeGlyphs?_quoted, Option.bind_eq_bind, Option.bind_some,
    skipSpaces_cons (show isSpace ':' = false by rfl), taken,
    skipSpaces_cons (show isSpace ',' = false by rfl), others]

-- The three readers call each other with one less of the bound on the depth of their calls. Each call
-- has taken a character by then, so the length of what is to be read is bound enough.
mutual

/-- The text of a value is read as its document. -/
theorem takeWithin?_write {depth : Nat} (value : Json) (plain : IsPlain depth value) (level : Nat)
    {rest : List Char} (follows : Follows rest) {fuel : Nat}
    (enough : (write .compact level value).length ≤ fuel) :
    takeWithin? fuel (write .compact level value ++ rest) = some (ofJson value, rest) := by
  obtain ⟨c, text, written, _⟩ := write_eq_cons plain level
  rw [written, List.length_cons] at enough
  obtain ⟨fuel, rfl⟩ := Nat.exists_eq_add_one_of_ne_zero (show fuel ≠ 0 by omega)
  rw [← List.length_cons, ← written] at enough
  cases value with
  | null =>
    rw [write]
    rfl
  | bool value => cases value <;> (rw [write]; rfl)
  | integer n =>
    obtain ⟨c, text, begins, sign⟩ := integer_eq_cons n
    have read := takeNumeral?_integer follows n
    rw [begins, List.cons_append] at read
    rw [write, begins, List.cons_append, takeWithin?_numeral sign, read]
    rfl
  | float x =>
    rw [IsPlain] at plain
    exact plain.elim
  | string text =>
    rw [write, takeWithin?_string]
    rfl
  | array items =>
    cases items with
    | nil =>
      rw [write]
      rfl
    | cons item items =>
      rw [IsPlain, ArePlain] at plain
      rw [write_array, List.length_cons] at enough
      obtain ⟨_, itemPlain, itemsPlain⟩ := plain
      obtain ⟨c, text, begins, visible, ne⟩ := write_eq_cons itemPlain (level + 1)
      have read := takeItems?_write item items itemPlain itemsPlain level rest
        (Nat.le_of_succ_le_succ enough)
      rw [begins, List.cons_append] at read
      rw [write_array, begins, List.cons_append, List.cons_append, List.cons_append,
        takeWithin?_items visible ne, List.append_assoc, read]
      rfl
  | object members =>
    rcases members with _ | ⟨⟨name, value⟩, members⟩
    · rw [write]
      rfl
    · rw [IsPlain, AreMembersPlain] at plain
      rw [write_object, List.length_cons] at enough
      obtain ⟨_, _, valuePlain, membersPlain⟩ := plain
      have read := takeMembers?_write name value members valuePlain membersPlain level rest
        (Nat.le_of_succ_le_succ enough)
      rw [write_object, List.cons_append, List.append_assoc]
      unfold writeMember at read
      unfold writeMember
      rw [List.cons_append] at read
      rw [List.cons_append, takeWithin?_members, read]
      rfl
termination_by fuel

/-- The texts of items are read as their documents. -/
theorem takeItems?_write {depth : Nat} (item : Json) (items : List Json)
    (itemPlain : IsPlain depth item) (itemsPlain : ArePlain depth items) (level : Nat)
    (rest : List Char) {fuel : Nat}
    (enough : (write .compact (level + 1) item ++ writeItems .compact level items).length ≤ fuel) :
    takeItems? fuel
        (write .compact (level + 1) item ++ (writeItems .compact level items ++ rest)) =
      some (ofItems (item :: items), rest) := by
  rw [List.length_append] at enough
  cases items with
  | nil =>
    rw [writeItems] at enough ⊢
    have length : (Layout.compact.lineBreak level ++ [']']).length = 1 := rfl
    obtain ⟨fuel, rfl⟩ := Nat.exists_eq_add_one_of_ne_zero (show fuel ≠ 0 by omega)
    exact takeItems?_last (takeWithin?_write item itemPlain (level + 1)
      (Or.inr ⟨']', rest, rfl, Or.inr (Or.inl rfl)⟩) (by omega))
  | cons next items =>
    rw [writeItems_cons, List.length_cons] at enough
    rw [writeItems_cons, List.cons_append, List.append_assoc]
    rw [ArePlain] at itemsPlain
    obtain ⟨fuel, rfl⟩ := Nat.exists_eq_add_one_of_ne_zero (show fuel ≠ 0 by omega)
    exact takeItems?_more
      (takeWithin?_write item itemPlain (level + 1) (Or.inr ⟨',', _, rfl, Or.inl rfl⟩) (by omega))
      (takeItems?_write next items itemsPlain.1 itemsPlain.2 level rest (by omega))
termination_by fuel

/-- The texts of members are read as their documents. -/
theorem takeMembers?_write {depth : Nat} (name : String) (value : Json)
    (members : List (String × Json)) (valuePlain : IsPlain depth value)
    (membersPlain : AreMembersPlain depth members) (level : Nat) (rest : List Char) {fuel : Nat}
    (enough :
      (writeMember level name value ++ writeMembers .compact level members).length ≤ fuel) :
    takeMembers? fuel
        (writeMember level name value ++ (writeMembers .compact level members ++ rest)) =
      some (ofMembers ((name, value) :: members), rest) := by
  have value_le := length_le_length_writeMember level name value
  rw [List.length_append] at enough
  rcases members with _ | ⟨⟨next, nextValue⟩, members⟩
  · rw [writeMembers] at enough ⊢
    have length : (Layout.compact.lineBreak level ++ ['}']).length = 1 := rfl
    obtain ⟨fuel, rfl⟩ := Nat.exists_eq_add_one_of_ne_zero (show fuel ≠ 0 by omega)
    exact takeMembers?_last (takeWithin?_write value valuePlain (level + 1)
      (Or.inr ⟨'}', rest, rfl, Or.inr (Or.inr rfl)⟩) (by omega))
  · rw [writeMembers_cons, List.length_cons] at enough
    rw [writeMembers_cons, List.cons_append, List.append_assoc]
    rw [AreMembersPlain] at membersPlain
    obtain ⟨fuel, rfl⟩ := Nat.exists_eq_add_one_of_ne_zero (show fuel ≠ 0 by omega)
    exact takeMembers?_more
      (takeWithin?_write value valuePlain (level + 1) (Or.inr ⟨',', _, rfl, Or.inl rfl⟩) (by omega))
      (takeMembers?_write next nextValue members membersPlain.1 membersPlain.2 level rest (by omega))
termination_by fuel

end

/-! ## From document to value -/

mutual

/-- The document of a value has that value. -/
theorem value?_ofJson {depth : Nat} (value : Json) (plain : IsPlain depth value) :
    value? depth (ofJson value) = some value := by
  cases value with
  | null => rw [ofJson, value?]
  | bool value => rw [ofJson, value?]
  | integer n =>
    rw [IsPlain] at plain
    rw [ofJson, value?, Numeral.value?_ofInt plain.1 plain.2]
  | float x =>
    rw [IsPlain] at plain
    exact plain.elim
  | string text =>
    rw [ofJson, value?, string?_glyphs]
    rfl
  | array items =>
    rw [IsPlain] at plain
    obtain ⟨positive, itemsPlain⟩ := plain
    obtain ⟨depth, rfl⟩ := Nat.exists_eq_add_one_of_ne_zero (Nat.ne_of_gt positive)
    rw [Nat.add_sub_cancel] at itemsPlain
    rw [ofJson, value?, values?_ofItems items itemsPlain]
    rfl
  | object members =>
    rw [IsPlain] at plain
    obtain ⟨positive, distinct, membersPlain⟩ := plain
    obtain ⟨depth, rfl⟩ := Nat.exists_eq_add_one_of_ne_zero (Nat.ne_of_gt positive)
    rw [Nat.add_sub_cancel] at membersPlain
    rw [ofJson, value?, memberValues?_ofMembers members membersPlain]
    simp only [Option.map_some, settle, Dict.entries_ofList distinct]

theorem values?_ofItems {depth : Nat} (items : List Json) (plain : ArePlain depth items) :
    values? depth (ofItems items) = some items := by
  cases items with
  | nil => rw [ofItems, values?]
  | cons item items =>
    rw [ArePlain] at plain
    rw [ofItems, values?, value?_ofJson item plain.1, values?_ofItems items plain.2]
    rfl

theorem memberValues?_ofMembers {depth : Nat} (members : List (String × Json))
    (plain : AreMembersPlain depth members) :
    memberValues? depth (ofMembers members) = some members := by
  rcases members with _ | ⟨⟨name, value⟩, members⟩
  · rw [ofMembers, memberValues?]
  · rw [AreMembersPlain] at plain
    rw [ofMembers, memberValues?, string?_glyphs, value?_ofJson value plain.1,
      memberValues?_ofMembers members plain.2]
    rfl

end

end Document

/-! ## From text to value -/

/-- The text of a value is read as the value, whatever follows it. -/
theorem take?_compact {value : Json} (plain : IsPlain Document.greatestDepth value)
    {rest : List Char} (follows : Follows rest) :
    take? ((compact value).toList ++ rest) = some (value, rest) := by
  have enough : (write .compact 0 value).length ≤
      2 * (write .compact 0 value ++ rest).length + 2 := by
    rw [List.length_append]
    omega
  unfold take? Document.take? compact
  rw [String.toList_ofList, Document.takeWithin?_write value plain 0 follows enough]
  simp only [Option.bind_eq_bind, Option.bind_some, Document.value?_ofJson value plain]

end DocumentQuery.Json
