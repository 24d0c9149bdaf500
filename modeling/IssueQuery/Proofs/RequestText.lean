import IssueQuery.Proofs.Conjunctions
import IssueQuery.Proofs.SortText
import IssueQuery.Proofs.Unmarked

namespace IssueQuery

theorem Text.readable_of_conjunction {mode : Mode} {maxDepth : Nat} {query : Text} {f : Option (Formula Clause)}
    {cs : List Clause} {conditions : List Condition} (read : Formula.ofText? mode maxDepth query = .ok f)
    (conjuncts : Scope.conjunction f = .ok cs)
    (reads : List.Forall₂ (fun c condition => Condition.read c.text = .ok condition) cs conditions) :
    Readable query := by
  refine readable_of_leaves read fun g isSome c member => ?_
  have parts := Scope.conjuncts_of_conjunction conjuncts
  rw [isSome] at parts
  rw [Formula.leaves_of_conjuncts? parts] at member
  obtain ⟨condition, _, atClause⟩ := exists_of_mem_forall₂ reads.flip member
  exact ⟨condition, atClause⟩

namespace Request

variable {s : Scope} {settings : Settings} {maxDepth : Nat}

theorem ofText?_of_parts {t filter : Text} {clause : Option Text} (split : Search.split t = (filter, clause))
    {f : Option (Formula Clause)} {cs : List Clause} (read : Formula.ofText? .search maxDepth filter = .ok f)
    (conjuncts : Scope.conjunction f = .ok cs) {q : Request}
    (conditions : List.Forall₂ (fun c condition => Condition.read c.text = .ok condition) cs q.conditions)
    (sortBy : clause.elim (.ok []) readSortPaths = .ok q.sortBy) : ofText? maxDepth t = .ok q := by
  refine ofText?_eq_ok_iff.mpr ⟨f, cs, by rwa [split], conjuncts, ?_, by rwa [split]⟩
  exact mapM_eq_ok_iff.mpr (conditions.imp fun _ _ => Condition.ofText?_eq_ok_iff.mpr)

/-- The text of a report is read as what its clauses are read as. The sort clause that is left out is
not read. -/
theorem ofText?_queryText {filters : List FilterClause} {conditions : List Condition}
    (reads : List.Forall₂ (fun clause c => ClauseShape clause.text ∧ Condition.read clause.text = .ok c)
      filters conditions)
    {sorts : List SortClause} {keys : List (List Text × Direction)}
    (written : List.Forall₂ (fun clause key => WrittenKey clause.text key) sorts keys) :
    ofText? maxDepth (s.queryText settings filters sorts) =
      .ok ⟨conditions, if s.isDefaultSort settings sorts then [] else keys⟩ := by
  have shapes : ∀ t ∈ filters.map FilterClause.text, ClauseShape t := by
    intro t member
    obtain ⟨clause, inFilters, rfl⟩ := List.mem_map.mp member
    obtain ⟨c, _, shape, _⟩ := exists_of_mem_forall₂ (List.Forall₂.flip reads) inFilters
    exact shape
  obtain ⟨f, cs, read, conjuncts, texts⟩ := Formula.exists_conjunction_of_join shapes maxDepth
  have clauses : List.Forall₂ (fun c condition => Condition.read c.text = .ok condition) cs conditions := by
    have written : List.Forall₂ (fun t condition => Condition.read t = .ok condition)
        (filters.map FilterClause.text) conditions :=
      List.forall₂_map_left_iff.mpr (reads.imp fun _ _ both => both.2)
    rw [← texts] at written
    exact List.forall₂_map_left_iff.mp written
  have readable := Text.readable_of_conjunction read conjuncts clauses
  unfold Scope.queryText
  dsimp only
  split
  · exact ofText?_of_parts readable.unmarked.split read conjuncts clauses rfl
  · rename_i other
    have nonempty : sorts ≠ [] := by
      rintro rfl
      exact other rfl
    have paths : readSortPaths (' ' :: Text.join [',', ' '] (sorts.map SortClause.text)) = .ok keys :=
      readSortPaths_of_written (by simpa using nonempty) (List.forall₂_map_left_iff.mpr written)
    by_cases empty : Text.join " and ".toList (filters.map FilterClause.text) = []
    · rw [empty] at read ⊢
      exact ofText?_of_parts (Search.split_sort _) read conjuncts clauses paths
    · rw [if_neg empty, List.append_assoc, List.append_assoc, List.singleton_append]
      exact ofText?_of_parts (readable.unmarked.split_sort readable.isClosed _) (Formula.ofText?_append_blank read)
        conjuncts clauses paths

end Request

end IssueQuery
