import DocumentQuery.Parameters
import DocumentQuery.Proofs.Dict
import Mathlib.Data.List.Forall2

/-!
Parameters of a JSON object.

The object gives its names in the same order, each with the raw value of its JSON value
(`Parameters.ofJson_object_eq_ok_iff`), so a name is looked up in the parameters as in the object
(`Parameters.get?_ofJson`).
-/

namespace DocumentQuery.Parameters

/-- Whether a parameter is the one that a member of an object gives. -/
def IsGivenBy (parameter : String × RawValue) (member : String × Json) : Prop :=
  parameter.1 = member.1 ∧ member.2.rawValue? = some parameter.2

/-! ## Member by member -/

theorem rawValues_eq_ok_iff {members : List (String × Json)} {parameters : List (String × RawValue)} :
    rawValues members = .ok parameters ↔ List.Forall₂ IsGivenBy parameters members := by
  induction members generalizing parameters with
  | nil =>
    rw [rawValues, List.forall₂_nil_right_iff, Except.ok.injEq]
    exact eq_comm
  | cons member members ih =>
    obtain ⟨name, value⟩ := member
    rw [rawValues, List.forall₂_cons_right_iff]
    cases given : value.rawValue? with
    | none =>
      refine iff_of_false nofun ?_
      rintro ⟨parameter, rest, ⟨_, same⟩, _⟩
      rw [given] at same
      cases same
    | some raw =>
      simp only
      constructor
      · intro collected
        cases others : rawValues members with
        | error error =>
          rw [others] at collected
          cases collected
        | ok rest =>
          rw [others] at collected
          obtain rfl : (name, raw) :: rest = parameters := Except.ok.inj collected
          exact ⟨(name, raw), rest, ⟨rfl, given⟩, ih.mp others, rfl⟩
      · rintro ⟨⟨name', raw'⟩, rest, ⟨rfl, same⟩, others, rfl⟩
        rw [given] at same
        obtain rfl : raw = raw' := Option.some.inj same
        rw [ih.mpr others]
        rfl

theorem names_eq_of_isGivenBy {members : List (String × Json)} {parameters : List (String × RawValue)}
    (all : List.Forall₂ IsGivenBy parameters members) :
    parameters.map Prod.fst = members.map Prod.fst := by
  induction all with
  | nil => rfl
  | cons given _ ih => rw [List.map_cons, List.map_cons, given.1, ih]

theorem find?_of_isGivenBy {members : List (String × Json)} {parameters : List (String × RawValue)}
    (all : List.Forall₂ IsGivenBy parameters members) (name : String) :
    Entries.find? name parameters = (Entries.find? name members).bind Json.rawValue? := by
  induction all with
  | nil => rfl
  | @cons parameter member _ _ given _ ih =>
    obtain ⟨same, value⟩ := given
    rw [Entries.find?, Entries.find?, same]
    split
    · exact value.symm
    · exact ih

/-! ## The object -/

theorem ofJson_object_eq_ok_iff {members : List (String × Json)} {parameters : Parameters} :
    ofJson (.object members) = .ok parameters ↔
      List.Forall₂ IsGivenBy parameters.entries (Dict.ofList members).entries := by
  rw [← rawValues_eq_ok_iff, ofJson]
  cases collected : rawValues (Dict.ofList members).entries with
  | error error => exact iff_of_false nofun nofun
  | ok raws =>
    have names := names_eq_of_isGivenBy (rawValues_eq_ok_iff.mp collected)
    have distinct : (raws.map Prod.fst).Nodup := by
      rw [names]
      exact (Dict.ofList members).nodup
    have entries := Dict.entries_ofList distinct
    constructor
    · intro same
      obtain rfl : Dict.ofList raws = parameters := Except.ok.inj same
      rw [entries]
    · intro same
      obtain rfl : raws = parameters.entries := Except.ok.inj same
      exact congrArg Except.ok (Dict.ext entries)

/-- A name has the raw value of the last JSON value that it has in the object. -/
theorem get?_ofJson {members : List (String × Json)} {parameters : Parameters}
    (read : ofJson (.object members) = .ok parameters) (name : String) :
    parameters.get? name = ((Dict.ofList members).get? name).bind Json.rawValue? :=
  find?_of_isGivenBy (ofJson_object_eq_ok_iff.mp read) name

end DocumentQuery.Parameters
