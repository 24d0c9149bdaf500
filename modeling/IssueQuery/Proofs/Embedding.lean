import Mathlib
import IssueQuery.Proofs.Gaps
import IssueQuery.Proofs.Negation
import IssueQuery.Proofs.Phrases

namespace IssueQuery

namespace Formula

/-- Two queries in brackets with a word between them. -/
def connect (word query₁ query₂ : Text) : Text :=
  '(' :: (query₁ ++ ')' :: ([' '] ++ (word ++ ([' '] ++ '(' :: (query₂ ++ [')'])))))

variable {query₁ query₂ : Text} {l₁ l₂ : Layout} {f₁ f₂ : Formula Clause} {depth₁ depth₂ : Nat}

theorem reads_and (reads₁ : Reads query₁ l₁ f₁ depth₁) (reads₂ : Reads query₂ l₂ f₂ depth₂)
    (closed₁ : Text.IsClosed query₁) (closed₂ : Text.IsClosed query₂) :
    ∃ l g, Reads (connect "and".toList query₁ query₂) l g (max depth₁ depth₂ + 1) ∧
      g.map Clause.text = (and f₁ f₂).map Clause.text := by
  have first := (reads₁.writes closed₁).group.imp .primary
  have second := (reads₂.writes closed₂).group.imp .primary
  have whole := ((first.imp .operand).and second).imp .conjunction
  rw [Nat.add_max_add_right] at whole
  simpa [connect] using whole.reads

theorem reads_or (reads₁ : Reads query₁ l₁ f₁ depth₁) (reads₂ : Reads query₂ l₂ f₂ depth₂)
    (closed₁ : Text.IsClosed query₁) (closed₂ : Text.IsClosed query₂) :
    ∃ l g, Reads (connect "or".toList query₁ query₂) l g (max depth₁ depth₂ + 1) ∧
      g.map Clause.text = (or f₁ f₂).map Clause.text := by
  have first := (reads₁.writes closed₁).group.imp .primary
  have second := (reads₂.writes closed₂).group.imp .primary
  have whole := first.disjunction.or (second.imp .operand)
  rw [Nat.add_max_add_right] at whole
  simpa [connect] using whole.reads

/-- A query in brackets after `not`. -/
def complement (query : Text) : Text := "not".toList ++ ([' '] ++ '(' :: (query ++ [')']))

theorem reads_not {query : Text} {l : Layout} {f : Formula Clause} {depth : Nat}
    (reads : Reads query l f depth) (closed : Text.IsClosed query) :
    ∃ l g, Reads (complement query) l g (depth + 2) ∧ g.map Clause.text = (not f).map Clause.text := by
  have negated := ((reads.writes closed).group.imp .primary).not
  simpa [complement] using negated.disjunction.reads

end Formula

namespace Scope

/-- What a clause compiles to, if it does, is decided by its text alone. -/
def compileText? (s : Scope) (text : Text) : Option Comparison := (s.compileClause ⟨text, 0, 0⟩).toOption

theorem toOption_compileClause (s : Scope) (c : Clause) :
    (s.compileClause c).toOption = s.compileText? c.text := by
  simp only [compileText?, compileClause, Condition.ofText?]
  cases Condition.read c.text <;> rfl

theorem traverse_respelled (s : Scope) {f g : Formula Clause} {f' : Formula Comparison}
    (texts : g.map Clause.text = f.map Clause.text) (run : f.traverse s.compileClause = .ok f') :
    g.traverse s.compileClause = .ok f' := by
  rw [Formula.traverse_eq_ok_iff] at run ⊢
  simp only [toOption_compileClause, ← Formula.map_map Clause.text s.compileText?] at run ⊢
  rw [texts, run]

theorem compileQuery_eq_some_iff {s : Scope} {mode : Mode} {maxDepth : Nat} {query : Text} {p : Predicate} :
    s.compileQuery mode maxDepth query = .ok (some p) ↔
      ∃ f, Formula.ofText? mode maxDepth query = .ok (some f) ∧ s.compile false f = .ok p := by
  rw [compileQuery, bind_eq_ok_iff]
  constructor
  · rintro ⟨f, read, compiled⟩
    cases f with
    | none => cases compiled
    | some f =>
      obtain ⟨q, compiled, eq⟩ := map_eq_ok_iff.mp compiled
      cases eq
      exact ⟨f, read, compiled⟩
  · rintro ⟨f, read, compiled⟩
    exact ⟨some f, read, map_eq_ok_iff.mpr ⟨p, compiled, rfl⟩⟩

theorem readable_of_compileQuery {s : Scope} {mode : Mode} {maxDepth : Nat} {query : Text} {p : Option Predicate}
    (compiled : s.compileQuery mode maxDepth query = .ok p) : Text.Readable query := by
  obtain ⟨f, read, compiled⟩ := bind_eq_ok_iff.mp compiled
  refine Text.readable_of_leaves read fun g isSome c member => ?_
  rw [isSome] at compiled
  obtain ⟨q, compiled, _⟩ := map_eq_ok_iff.mp compiled
  obtain ⟨comparison, compiled⟩ := s.exists_comparison_of_compile compiled member
  obtain ⟨condition, read, _⟩ := bind_eq_ok_iff.mp compiled
  exact ⟨condition, Condition.ofText?_eq_ok_iff.mp read⟩

/-- A query that compiles reads as a formula whose clauses compile, and leaves no quotes open. -/
theorem reads_of_compileQuery {s : Scope} {maxDepth : Nat} {query : Text} {p : Predicate}
    (compiled : s.compileQuery .filter maxDepth query = .ok (some p)) :
    ∃ l f f', ∃ depth ≤ maxDepth, Formula.Reads query l f depth ∧ Text.IsClosed query ∧
      f.traverse s.compileClause = .ok f' ∧ Predicate.ofFormula false f' = p := by
  have closed := (readable_of_compileQuery compiled).isClosed
  obtain ⟨f, read, compiled⟩ := compileQuery_eq_some_iff.mp compiled
  obtain ⟨_, l, depth, within, reads⟩ := Formula.ofText?_eq_some_iff.mp read
  rw [compile_eq] at compiled
  obtain ⟨f', traversed, eq⟩ := map_eq_ok_iff.mp compiled
  exact ⟨l, f, f', depth, within, reads, closed, traversed, eq⟩

/-- A query compiles if it reads as a formula that has the clauses of one that compiles. -/
theorem compileQuery_of_reads {s : Scope} {maxDepth depth : Nat} {query : Text} {l : Layout}
    {f g : Formula Clause} {f' : Formula Comparison} (reads : Formula.Reads query l g depth)
    (within : depth ≤ maxDepth) (texts : g.map Clause.text = f.map Clause.text)
    (traversed : f.traverse s.compileClause = .ok f') :
    s.compileQuery .filter maxDepth query = .ok (some (Predicate.ofFormula false f')) := by
  refine compileQuery_eq_some_iff.mpr ⟨g, Formula.ofText?_eq_some_iff.mpr ⟨nofun, l, depth, within, reads⟩, ?_⟩
  rw [compile_eq, s.traverse_respelled texts traversed]
  rfl

/-- Queries that compile can be put into brackets and combined. The predicates are combined in the same
way, whatever the texts of the queries are. Brackets take one level of nesting, and `not` one more. -/
theorem compileQuery_embedded (s : Scope) {depth : Nat} {query₁ query₂ : Text} {p₁ p₂ : Predicate}
    (first : s.compileQuery .filter depth query₁ = .ok (some p₁))
    (second : s.compileQuery .filter depth query₂ = .ok (some p₂)) :
    (∀ maxDepth, depth + 1 ≤ maxDepth →
      s.compileQuery .filter maxDepth ("(".toList ++ query₁ ++ ") and (".toList ++ query₂ ++ ")".toList) =
          .ok (some (p₁.conj p₂)) ∧
        s.compileQuery .filter maxDepth ("(".toList ++ query₁ ++ ") or (".toList ++ query₂ ++ ")".toList) =
          .ok (some (p₁.disj p₂))) ∧
      ∀ maxDepth, depth + 2 ≤ maxDepth →
        ∃ p, s.compileQuery .filter maxDepth ("not (".toList ++ query₁ ++ ")".toList) = .ok (some p) ∧
          ∀ doc, p.holds doc = !p₁.holds doc := by
  obtain ⟨l₁, f₁, f₁', depth₁, within₁, reads₁, closed₁, traversed₁, rfl⟩ := reads_of_compileQuery first
  obtain ⟨l₂, f₂, f₂', depth₂, within₂, reads₂, closed₂, traversed₂, rfl⟩ := reads_of_compileQuery second
  constructor
  · intro maxDepth room
    have deeper : max depth₁ depth₂ + 1 ≤ maxDepth := by omega
    constructor
    · obtain ⟨l, g, reads, texts⟩ := Formula.reads_and reads₁ reads₂ closed₁ closed₂
      have traversed : (Formula.and f₁ f₂).traverse s.compileClause = .ok (.and f₁' f₂') := by
        rw [Formula.traverse, traversed₁, traversed₂]
        rfl
      have compiled := compileQuery_of_reads reads deeper texts traversed
      simpa [Formula.connect, Predicate.ofFormula] using compiled
    · obtain ⟨l, g, reads, texts⟩ := Formula.reads_or reads₁ reads₂ closed₁ closed₂
      have traversed : (Formula.or f₁ f₂).traverse s.compileClause = .ok (.or f₁' f₂') := by
        rw [Formula.traverse, traversed₁, traversed₂]
        rfl
      have compiled := compileQuery_of_reads reads deeper texts traversed
      simpa [Formula.connect, Predicate.ofFormula] using compiled
  · intro maxDepth room
    obtain ⟨l, g, reads, texts⟩ := Formula.reads_not reads₁ closed₁
    have traversed : (Formula.not f₁).traverse s.compileClause = .ok (.not f₁') := by
      rw [Formula.traverse, traversed₁]
      rfl
    have deeper : depth₁ + 2 ≤ maxDepth := by omega
    have compiled := compileQuery_of_reads reads deeper texts traversed
    refine ⟨_, by simpa [Formula.complement] using compiled, fun doc => ?_⟩
    rw [Predicate.holds_ofFormula, Predicate.holds_ofFormula, Formula.eval]
    simp

set_option maxRecDepth 4000 in
/-- A query with brackets and a keyword in quotes is embedded as any other. -/
theorem compileQuery_embedded_quoted :
    let query₁ : Text := "labels: \") or (\"".toList
    let query₂ : Text := "#popular".toList
    let p₁ : Predicate := .compare ⟨["labels".toList], .eq, .string ") or (".toList⟩
    let p₂ : Predicate := .compare ⟨["votes".toList], .gte, .int 10⟩
    sample.compileQuery .filter 0 query₁ = .ok (some p₁) ∧ sample.compileQuery .filter 0 query₂ = .ok (some p₂) ∧
      sample.compileQuery .filter 1 ("(".toList ++ query₁ ++ ") and (".toList ++ query₂ ++ ")".toList) =
          .ok (some (p₁.conj p₂)) ∧
        ∃ p, sample.compileQuery .filter 2 ("not (".toList ++ query₁ ++ ")".toList) = .ok (some p) ∧
          ∀ doc, p.holds doc = !p₁.holds doc := by
  have first : sample.compileQuery .filter 0 "labels: \") or (\"".toList =
      .ok (some (.compare ⟨["labels".toList], .eq, .string ") or (".toList⟩)) := by cbv
  have second : sample.compileQuery .filter 0 "#popular".toList =
      .ok (some (.compare ⟨["votes".toList], .gte, .int 10⟩)) := by cbv
  have embedded := compileQuery_embedded sample first second
  exact ⟨first, second, (embedded.1 1 (by decide)).1, embedded.2 2 (by decide)⟩

/-- One level more is not enough for `not` and a pair of brackets. -/
theorem compileQuery_not_group_too_deep :
    sample.compileQuery .filter 0 "votes: 1".toList = .ok (some (.compare ⟨["votes".toList], .eq, .int 1⟩)) ∧
      ¬ ∃ p, sample.compileQuery .filter (0 + 1) ("not (".toList ++ "votes: 1".toList ++ ")".toList) =
        .ok (some p) := by
  have compiled : sample.compileQuery .filter 0 "votes: 1".toList =
      .ok (some (.compare ⟨["votes".toList], .eq, .int 1⟩)) := by cbv
  have refused : sample.compileQuery .filter (0 + 1) ("not (".toList ++ "votes: 1".toList ++ ")".toList) =
      .error (.tooDeeplyNested 1) := by cbv
  refine ⟨compiled, ?_⟩
  rintro ⟨p, accepted⟩
  rw [refused] at accepted
  cases accepted

end Scope

end IssueQuery
