import DocumentQuery.Calendar.Timestamp
import DocumentQuery.Parameters

/-!
Operands: the typed values that a filter compares with.

An operand is a scalar or a list of operands. Its JSON form does not tell a date from a text: a date
is written as its timestamp.
-/

namespace DocumentQuery

/-- A typed value of a filter. -/
inductive Operand
  | null
  | bool (value : Bool)
  | int (value : Int)
  | date (value : Instant)
  | text (value : String)
  | list (items : List Operand)

namespace Operand

instance : Inhabited Operand :=
  ⟨.null⟩

/-! ## Equality -/

mutual

/-- Whether two operands are equal. -/
def beq : Operand → Operand → Bool
  | .null, .null => true
  | .bool a, .bool b => a = b
  | .int a, .int b => a = b
  | .date a, .date b => a = b
  | .text a, .text b => a = b
  | .list as, .list bs => beqList as bs
  | _, _ => false

/-- Whether two lists of operands are equal. -/
def beqList : List Operand → List Operand → Bool
  | [], [] => true
  | a :: as, b :: bs => beq a b && beqList as bs
  | _, _ => false

end

mutual

theorem eq_of_beq {a b : Operand} (h : beq a b = true) : a = b := by
  cases a <;> cases b <;> simp only [beq, decide_eq_true_eq, Bool.false_eq_true] at h
  case null.null => rfl
  case list.list => rw [eqList_of_beqList h]
  all_goals rw [h]

theorem eqList_of_beqList {as bs : List Operand} (h : beqList as bs = true) : as = bs := by
  cases as with
  | nil =>
    cases bs with
    | nil => rfl
    | cons b bs => simp [beqList] at h
  | cons a as =>
    cases bs with
    | nil => simp [beqList] at h
    | cons b bs =>
      rw [beqList, Bool.and_eq_true] at h
      rw [eq_of_beq h.1, eqList_of_beqList h.2]

end

mutual

theorem beq_refl (a : Operand) : beq a a = true := by
  cases a <;> simp only [beq, decide_true]
  exact beqList_refl _

theorem beqList_refl (as : List Operand) : beqList as as = true := by
  cases as with
  | nil => rfl
  | cons a as => rw [beqList, beq_refl a, beqList_refl as, Bool.and_true]

end

instance : DecidableEq Operand := fun a b =>
  if h : beq a b = true then isTrue (eq_of_beq h)
  else isFalse fun same => h (same ▸ beq_refl a)

/-! ## Views -/

/-- The operand for a raw value, before any of its texts is looked at. -/
def ofRaw : RawValue → Operand
  | .null => .null
  | .single value => .text value
  | .multiple texts => .list (texts.map .text)

/-- The instant of a date. -/
def instant? : Operand → Option Instant
  | .date instant => some instant
  | _ => none

mutual

/-- An operand as JSON. -/
def toJson : Operand → Json
  | .null => .null
  | .bool value => .bool value
  | .int value => .integer value
  | .date instant => .string instant.text
  | .text value => .string value
  | .list items => .array (listToJson items)

/-- A list of operands as JSON. -/
def listToJson : List Operand → List Json
  | [] => []
  | item :: items => toJson item :: listToJson items

end

theorem listToJson_eq_map (items : List Operand) : listToJson items = items.map toJson := by
  induction items with
  | nil => rfl
  | cons item items ih => rw [listToJson, ih, List.map_cons]

end Operand

end DocumentQuery
