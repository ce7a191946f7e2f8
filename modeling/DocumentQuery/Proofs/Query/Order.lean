import DocumentQuery.Proofs.Query.Separation

/-!
Requests with the same parameters in another order.

A reserved parameter is looked up by its name, so the parts of a query that are read from one do not
depend on where it stands. The clauses of a filter follow the order of the parameters; but no
parameter takes part in another one's block, so a change of the order moves whole blocks and nothing
else.
-/

namespace DocumentQuery

variable {settings : Settings} {left right : Parameters}

namespace Filter

/-! ## Blocks in another order -/

theorem unreserved_perm (perm : left.entries.Perm right.entries) :
    (unreserved settings left).Perm (unreserved settings right) :=
  perm.filter _

theorem clauses_perm (perm : left.entries.Perm right.entries) :
    (ofParameters settings left).clauses.Perm (ofParameters settings right).clauses := by
  rw [clauses_eq_flatMap, clauses_eq_flatMap]
  exact (unreserved_perm perm).flatMap_right _

/-! ## The connective -/

theorem connective?_ofClauses (connective : Connective) (clauses : List Clause) :
    (ofClauses connective clauses).connective? =
      if clauses.isEmpty then none else some connective := by
  cases clauses <;> rfl

theorem connective?_perm (perm : left.entries.Perm right.entries) :
    (ofParameters settings left).connective? = (ofParameters settings right).connective? := by
  have clauses : (blocks settings left).Perm (blocks settings right) := by
    rw [← clauses_ofParameters, ← clauses_ofParameters]
    exact clauses_perm perm
  have empty : (blocks settings left).isEmpty = (blocks settings right).isEmpty := by
    rw [Bool.eq_iff_iff, List.isEmpty_iff_length_eq_zero, List.isEmpty_iff_length_eq_zero,
      clauses.length_eq]
  unfold ofParameters
  rw [connective?_ofClauses, connective?_ofClauses, empty, Dict.get?_of_perm perm]

end Filter

namespace Query

/-- Requests with the same parameters in whatever order have the same pagination, sort order and
projection, and the same connective or both no clauses. The clauses of each are the blocks of the
same parameters, one after another in the order in which the parameters stand, so those of the other
are a rearrangement that keeps every block together and as it is. -/
theorem order_moves_whole_blocks (settings : Settings) {left right : Parameters}
    (same : left.agrees right = true) :
    (ofParameters settings left).pagination = (ofParameters settings right).pagination ∧
      (ofParameters settings left).sort = (ofParameters settings right).sort ∧
      (ofParameters settings left).fields = (ofParameters settings right).fields ∧
      (ofParameters settings left).filter.connective? =
        (ofParameters settings right).filter.connective? ∧
      (Filter.unreserved settings left).Perm (Filter.unreserved settings right) ∧
      (ofParameters settings left).filter.clauses =
        (Filter.unreserved settings left).flatMap (fun entry => Filter.block entry.1 entry.2) ∧
      (ofParameters settings right).filter.clauses =
        (Filter.unreserved settings right).flatMap (fun entry => Filter.block entry.1 entry.2) ∧
      (ofParameters settings left).filter.clauses.Perm
        (ofParameters settings right).filter.clauses := by
  have perm := Dict.agrees_iff_perm.mp same
  have values := Dict.get?_of_perm perm
  exact ⟨Pagination.ofParameters_congr (values _) (values _),
    SortOrder.ofParameters?_congr (values _), Projection.ofParameters?_congr (values _),
    Filter.connective?_perm perm, Filter.unreserved_perm perm,
    Filter.clauses_eq_flatMap settings left, Filter.clauses_eq_flatMap settings right,
    Filter.clauses_perm perm⟩

/-- A repeated parameter, a connective and a sort order, and the same from back to front. -/
theorem order_moves_whole_blocks_backwards :
    let left := Parameters.ofPairs
      [("tag", "x"), ("tag", "y"), ("age.gte", "3"), ("sort", "b,a DESC"), ("_op", "or")]
    let right := Parameters.ofPairs
      [("_op", "or"), ("sort", "b,a DESC"), ("age.gte", "3"), ("tag", "x"), ("tag", "y")]
    let tags := [Filter.clauseOf "tag" (.single "x"), Filter.clauseOf "tag" (.single "y")]
    let age := Filter.clauseOf "age.gte" (.single "3")
    left.agrees right = true ∧
      (ofParameters .builtin left).sort = (ofParameters .builtin right).sort ∧
      (ofParameters .builtin left).filter.clauses = tags ++ [age] ∧
      (ofParameters .builtin right).filter.clauses = age :: tags := by
  intro left right tags age
  have same : left.agrees right = true := by decide
  obtain ⟨_, sort, _, _, _, first, second, _⟩ := order_moves_whole_blocks .builtin same
  refine ⟨same, sort, ?_, ?_⟩
  · rw [first]
    decide
  · rw [second]
    decide

end Query

end DocumentQuery
