import IssueQuery.Proofs.Negation

namespace IssueQuery.Scope

/-- A formula fails to compile as the first of its clauses that does, from left to right. -/
theorem compile_eq_error_iff {s : Scope} {negate : Bool} {f : Formula Clause} {e : QueryError} :
    s.compile negate f = .error e ↔ FirstFails s.compileClause f.leaves e := by
  rw [compile_eq, map_eq_error_iff, ← map_eq_error_iff (f := Formula.leaves), Formula.leaves_traverse, mapM_eq_error_iff]

/-- A formula fails to compile if one of its clauses does. The first such clause in the order of the text decides
on the error, so the error does not depend on negation, on the connectives or on how the clauses are grouped. -/
theorem compile_fails_in_source_order (s : Scope) (negate : Bool) (f : Formula Clause) :
    ((∃ e, s.compile negate f = .error e) ↔ ∃ c ∈ f.leaves, ∃ e, s.compileClause c = .error e) ∧
      (∀ e, s.compile negate f = .error e ↔ ∃ before c after, f.leaves = before ++ c :: after ∧
        (∀ b ∈ before, ∃ comparison, s.compileClause b = .ok comparison) ∧ s.compileClause c = .error e) ∧
      ∀ (negate' : Bool) (g : Formula Clause), g.leaves = f.leaves →
        ∀ e, s.compile negate' g = .error e ↔ s.compile negate f = .error e := by
  refine ⟨?_, fun e => compile_eq_error_iff, fun negate' g same e => ?_⟩
  · simp only [compile_eq_error_iff]
    exact exists_firstFails_iff
  · rw [compile_eq_error_iff, compile_eq_error_iff, same]

set_option maxRecDepth 4000 in
/-- Two clauses that do not compile, in two formulas: the second one is never reached. -/
theorem compile_fails_in_source_order_sample :
    let votes : Clause := ⟨"votes: 3".toList, 0, 7⟩
    let unknown : Clause := ⟨"points: 1".toList, 18, 26⟩
    let unread : Clause := ⟨"votes".toList, 31, 35⟩
    let f : Formula Clause := .and (.leaf votes) (.not (.or (.leaf unknown) (.leaf unread)))
    let g : Formula Clause := .or (.and (.leaf votes) (.leaf unknown)) (.leaf unread)
    g.leaves = f.leaves ∧ sample.compileClause unread = .error (.invalidExpression "votes".toList 36 .missingColon) ∧
      sample.compile true f = .error (.unknownField "points".toList) ∧
      sample.compile false g = .error (.unknownField "points".toList) := by
  intro votes unknown unread f g
  have compiles : ∃ comparison, sample.compileClause votes = .ok comparison := ⟨_, by cbv⟩
  have fails : sample.compileClause unknown = .error (.unknownField "points".toList) := by cbv
  have unreadable : sample.compileClause unread = .error (.invalidExpression "votes".toList 36 .missingColon) := by cbv
  obtain ⟨_, first, alike⟩ := compile_fails_in_source_order sample true f
  have failed := (first _).mpr ⟨[votes], unknown, [unread], rfl, List.forall_mem_singleton.mpr compiles, fails⟩
  exact ⟨rfl, unreadable, failed, (alike false g rfl _).mpr failed⟩

end IssueQuery.Scope
