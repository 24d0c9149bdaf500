import IssueQuery.Proofs.Negation

namespace IssueQuery

namespace Predicate

mutual

/-- The comparisons that a predicate makes, at any depth. -/
def comparisons : Predicate → List Comparison
  | .compare c | .not c => [c]
  | .and parts | .or parts | .nor parts => comparisonsOfAll parts

def comparisonsOfAll : List Predicate → List Comparison
  | [] => []
  | p :: ps => comparisons p ++ comparisonsOfAll ps

end

theorem comparisonsOfAll_append (ps qs : List Predicate) :
    comparisonsOfAll (ps ++ qs) = comparisonsOfAll ps ++ comparisonsOfAll qs := by
  induction ps with
  | nil => rfl
  | cons p ps ih => rw [List.cons_append, comparisonsOfAll, comparisonsOfAll, ih, List.append_assoc]

theorem comparisonsOfAll_conjuncts (p : Predicate) : comparisonsOfAll p.conjuncts = p.comparisons := by
  cases p <;> simp [conjuncts, comparisonsOfAll, comparisons]

theorem comparisonsOfAll_disjuncts (p : Predicate) : comparisonsOfAll p.disjuncts = p.comparisons := by
  cases p <;> simp [disjuncts, comparisonsOfAll, comparisons]

theorem comparisons_conj (p q : Predicate) : (p.conj q).comparisons = p.comparisons ++ q.comparisons := by
  rw [conj, comparisons, comparisonsOfAll_append, comparisonsOfAll_conjuncts, comparisonsOfAll_conjuncts]

theorem comparisons_disj (p q : Predicate) : (p.disj q).comparisons = p.comparisons ++ q.comparisons := by
  rw [disj, comparisons, comparisonsOfAll_append, comparisonsOfAll_disjuncts, comparisonsOfAll_disjuncts]

theorem comparisons_neither (p q : Predicate) : (p.neither q).comparisons = p.comparisons ++ q.comparisons := by
  rw [neither, comparisons, comparisonsOfAll_append, comparisonsOfAll_disjuncts, comparisonsOfAll_disjuncts]

/-- Pushing negation inwards makes no comparison of its own and drops none. -/
theorem comparisons_ofFormula (negate : Bool) (f : Formula Comparison) :
    (ofFormula negate f).comparisons = f.leaves := by
  induction f generalizing negate with
  | leaf c => cases negate <;> rfl
  | and l r left right =>
    cases negate <;> simp [ofFormula, comparisons_conj, comparisons_disj, left, right, Formula.leaves]
  | or l r left right =>
    cases negate <;> simp [ofFormula, comparisons_disj, comparisons_neither, left, right, Formula.leaves]
  | not f ih => exact ih _

/-- Every connective has at least two parts, and no part is one that the connective takes apart: a
conjunction has no conjunction as a part, a disjunction and `nor` have no disjunction. -/
inductive IsNormal : Predicate → Prop
  | compare (c : Comparison) : IsNormal (.compare c)
  | not (c : Comparison) : IsNormal (.not c)
  | and {parts : List Predicate} : 2 ≤ parts.length → (∀ p ∈ parts, IsNormal p) →
      (∀ p ∈ parts, ∀ inner, p ≠ .and inner) → IsNormal (.and parts)
  | or {parts : List Predicate} : 2 ≤ parts.length → (∀ p ∈ parts, IsNormal p) →
      (∀ p ∈ parts, ∀ inner, p ≠ .or inner) → IsNormal (.or parts)
  | nor {parts : List Predicate} : 2 ≤ parts.length → (∀ p ∈ parts, IsNormal p) →
      (∀ p ∈ parts, ∀ inner, p ≠ .or inner) → IsNormal (.nor parts)

/-- One side of a connective, after the connective `nested` has been taken apart. -/
structure Side (nested : List Predicate → Predicate) (parts : List Predicate) : Prop where
  nonempty : 0 < parts.length
  normal : ∀ p ∈ parts, p.IsNormal
  apart : ∀ p ∈ parts, ∀ inner, p ≠ nested inner

theorem side_singleton {nested : List Predicate → Predicate} {p : Predicate} (normal : p.IsNormal)
    (apart : ∀ inner, p ≠ nested inner) : Side nested [p] :=
  ⟨Nat.one_pos, List.forall_mem_singleton.mpr normal, List.forall_mem_singleton.mpr apart⟩

theorem side_conjuncts {p : Predicate} (normal : p.IsNormal) : Side .and p.conjuncts := by
  cases normal with
  | and two normal apart => exact ⟨Nat.lt_of_lt_of_le Nat.two_pos two, normal, apart⟩
  | compare c => exact side_singleton (.compare c) nofun
  | not c => exact side_singleton (.not c) nofun
  | or two normal apart => exact side_singleton (.or two normal apart) nofun
  | nor two normal apart => exact side_singleton (.nor two normal apart) nofun

theorem side_disjuncts {p : Predicate} (normal : p.IsNormal) : Side .or p.disjuncts := by
  cases normal with
  | or two normal apart => exact ⟨Nat.lt_of_lt_of_le Nat.two_pos two, normal, apart⟩
  | compare c => exact side_singleton (.compare c) nofun
  | not c => exact side_singleton (.not c) nofun
  | and two normal apart => exact side_singleton (.and two normal apart) nofun
  | nor two normal apart => exact side_singleton (.nor two normal apart) nofun

/-- Two sides have at least two parts together, and all of them may stand under the connective. -/
theorem Side.append {nested : List Predicate → Predicate} {ps qs : List Predicate} (left : Side nested ps)
    (right : Side nested qs) :
    2 ≤ (ps ++ qs).length ∧ (∀ p ∈ ps ++ qs, p.IsNormal) ∧ ∀ p ∈ ps ++ qs, ∀ inner, p ≠ nested inner := by
  have atLeft := left.nonempty
  have atRight := right.nonempty
  refine ⟨?_, List.forall_mem_append.mpr ⟨left.normal, right.normal⟩,
    List.forall_mem_append.mpr ⟨left.apart, right.apart⟩⟩
  rw [List.length_append]
  omega

section Connectives

variable {p q : Predicate} (atLeft : p.IsNormal) (atRight : q.IsNormal)

include atLeft atRight

theorem isNormal_conj : (p.conj q).IsNormal := by
  obtain ⟨two, normal, apart⟩ := (side_conjuncts atLeft).append (side_conjuncts atRight)
  exact .and two normal apart

theorem isNormal_disj : (p.disj q).IsNormal := by
  obtain ⟨two, normal, apart⟩ := (side_disjuncts atLeft).append (side_disjuncts atRight)
  exact .or two normal apart

theorem isNormal_neither : (p.neither q).IsNormal := by
  obtain ⟨two, normal, apart⟩ := (side_disjuncts atLeft).append (side_disjuncts atRight)
  exact .nor two normal apart

end Connectives

/-- Whichever connectives negation turns into one another, every level is in normal form. -/
theorem isNormal_ofFormula (negate : Bool) (f : Formula Comparison) : (ofFormula negate f).IsNormal := by
  induction f generalizing negate with
  | leaf c =>
    cases negate with
    | false => exact .compare c
    | true => exact .not c
  | and l r left right =>
    cases negate with
    | false => exact isNormal_conj (left false) (right false)
    | true => exact isNormal_disj (left true) (right true)
  | or l r left right =>
    cases negate with
    | false => exact isNormal_disj (left false) (right false)
    | true => exact isNormal_neither (left false) (right false)
  | not f ih => exact ih _

end Predicate

namespace Scope

/-- The comparisons of a compiled formula are those of its clauses, in order. -/
theorem comparisons_of_compile {s : Scope} {negate : Bool} {f : Formula Clause} {p : Predicate}
    (compiled : s.compile negate f = .ok p) : f.leaves.mapM s.compileClause = .ok p.comparisons := by
  rw [compile_eq] at compiled
  obtain ⟨f', traversed, rfl⟩ := map_eq_ok_iff.mp compiled
  rw [Predicate.comparisons_ofFormula, ← Formula.leaves_traverse, traversed]
  rfl

/-- A compiled formula is in normal form and loses nothing: from left to right, its comparisons are those
of the clauses of the formula, each of them once. -/
theorem isNormal_of_compile (s : Scope) {negate : Bool} {f : Formula Clause} {p : Predicate}
    (compiled : s.compile negate f = .ok p) :
    p.IsNormal ∧ f.leaves.mapM s.compileClause = .ok p.comparisons := by
  refine ⟨?_, comparisons_of_compile compiled⟩
  rw [compile_eq] at compiled
  obtain ⟨f', _, rfl⟩ := map_eq_ok_iff.mp compiled
  exact Predicate.isNormal_ofFormula negate f'

set_option maxRecDepth 4000 in
/-- Under negation a disjunction is absorbed by `nor`, while `nor` itself stays a part of the disjunction
that a negated conjunction becomes. -/
theorem isNormal_of_compile_negated :
    let votes (n : Int) : Comparison := ⟨["votes".toList], .eq, .int n⟩
    let f : Formula Clause :=
      .and (.and (.leaf ⟨"votes: 1".toList, 0, 7⟩)
          (.or (.or (.leaf ⟨"votes: 2".toList, 14, 21⟩) (.leaf ⟨"votes: 3".toList, 26, 33⟩))
            (.leaf ⟨"votes: 4".toList, 38, 45⟩)))
        (.leaf ⟨"votes: 1".toList, 52, 59⟩)
    let p : Predicate :=
      .or [.not (votes 1), .nor [.compare (votes 2), .compare (votes 3), .compare (votes 4)], .not (votes 1)]
    sample.compile true f = .ok p ∧ p.IsNormal ∧
      f.leaves.mapM sample.compileClause = .ok [votes 1, votes 2, votes 3, votes 4, votes 1] := by
  intro votes f p
  have compiled : sample.compile true f = .ok p := by cbv
  exact ⟨compiled, isNormal_of_compile sample compiled⟩

end Scope

end IssueQuery
