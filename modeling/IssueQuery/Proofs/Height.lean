import IssueQuery.Proofs.Embedding

namespace IssueQuery

namespace Predicate

mutual

/-- How many connectives stand one inside the other in a predicate. A comparison has none. -/
def height : Predicate → Nat
  | .compare _ | .not _ => 0
  | .and parts | .or parts | .nor parts => heightOfAll parts + 1

/-- The height of the highest predicate. -/
def heightOfAll : List Predicate → Nat
  | [] => 0
  | p :: ps => max (height p) (heightOfAll ps)

end

theorem heightOfAll_append (ps qs : List Predicate) :
    heightOfAll (ps ++ qs) = max (heightOfAll ps) (heightOfAll qs) := by
  induction ps with
  | nil => rw [List.nil_append, heightOfAll, Nat.zero_max]
  | cons p ps ih => rw [List.cons_append, heightOfAll, heightOfAll, ih, Nat.max_assoc]

theorem height_singleton (p : Predicate) : heightOfAll [p] ≤ p.height ∧ p.height ≤ heightOfAll [p] + 1 := by
  rw [heightOfAll, heightOfAll, Nat.max_zero]
  exact ⟨Nat.le_refl _, Nat.le_succ _⟩

/-- Taking a conjunction apart takes off one level at most. -/
theorem height_conjuncts (p : Predicate) :
    heightOfAll p.conjuncts ≤ p.height ∧ p.height ≤ heightOfAll p.conjuncts + 1 := by
  cases p with
  | and parts => exact ⟨Nat.le_succ _, Nat.le_refl _⟩
  | compare | not | or | nor => exact height_singleton _

theorem height_disjuncts (p : Predicate) :
    heightOfAll p.disjuncts ≤ p.height ∧ p.height ≤ heightOfAll p.disjuncts + 1 := by
  cases p with
  | or parts => exact ⟨Nat.le_succ _, Nat.le_refl _⟩
  | compare | not | and | nor => exact height_singleton _

/-- How high the predicate of a phrase and that of its negation may be, if `depth` levels of nesting are open to
it. Members of a chain lie side by side, so only what a chain consists of counts: the conjuncts of a conjunction,
which negation turns into disjuncts, and the disjuncts of a disjunction, which negation puts under one `nor`. -/
def Fits (depth : Nat) : Formula.Phrase → Formula Comparison → Prop
  | .primary, f | .operand, f => ∀ negate, (ofFormula negate f).height ≤ 2 * depth
  | .conjunction, f =>
    heightOfAll (ofFormula false f).conjuncts ≤ 2 * depth ∧ heightOfAll (ofFormula true f).disjuncts ≤ 2 * depth
  | .disjunction, f =>
    heightOfAll (ofFormula false f).disjuncts ≤ 2 * depth + 1 ∧ (ofFormula true f).height ≤ 2 * depth + 2

variable {f g : Formula Comparison} {depth left right : Nat}

theorem fits_leaf (c : Comparison) : Fits 0 .primary (.leaf c) := by
  intro negate
  cases negate <;> exact Nat.le_refl 0

/-- A group is one level deeper than what it encloses, which pays for a disjunction of conjunctions. -/
theorem fits_group (inner : Fits depth .disjunction f) : Fits (depth + 1) .primary f := by
  obtain ⟨plain, negated⟩ := inner
  have apart := (height_disjuncts (ofFormula false f)).2
  intro negate
  cases negate <;> omega

theorem fits_not (inner : Fits depth .operand f) : Fits (depth + 1) .operand (.not f) := by
  intro negate
  have bound := inner !negate
  rw [ofFormula]
  omega

theorem fits_operand (inner : Fits depth .operand f) : Fits depth .conjunction f :=
  ⟨(height_conjuncts _).1.trans (inner false), (height_disjuncts _).1.trans (inner true)⟩

theorem fits_and (first : Fits left .conjunction f) (second : Fits right .operand g) :
    Fits (max left right) .conjunction (.and f g) := by
  obtain ⟨plain, negated⟩ := first
  obtain ⟨plain', negated'⟩ := fits_operand second
  have conjuncts_eq : (ofFormula false (.and f g)).conjuncts =
      (ofFormula false f).conjuncts ++ (ofFormula false g).conjuncts := rfl
  have disjuncts_eq : (ofFormula true (.and f g)).disjuncts =
      (ofFormula true f).disjuncts ++ (ofFormula true g).disjuncts := rfl
  rw [Fits, conjuncts_eq, disjuncts_eq, heightOfAll_append, heightOfAll_append]
  omega

theorem fits_conjunction (inner : Fits depth .conjunction f) : Fits depth .disjunction f := by
  obtain ⟨plain, negated⟩ := inner
  have together := (height_conjuncts (ofFormula false f)).2
  have apart := (height_disjuncts (ofFormula false f)).1
  have under := (height_disjuncts (ofFormula true f)).2
  exact ⟨by omega, by omega⟩

theorem fits_or (first : Fits left .disjunction f) (second : Fits right .conjunction g) :
    Fits (max left right) .disjunction (.or f g) := by
  have plain := first.1
  have plain' := (fits_conjunction second).1
  have disjuncts_eq : (ofFormula false (.or f g)).disjuncts =
      (ofFormula false f).disjuncts ++ (ofFormula false g).disjuncts := rfl
  -- Both sides of a negated disjunction are compiled as they stand.
  have height_eq : (ofFormula true (.or f g)).height =
      heightOfAll ((ofFormula false f).disjuncts ++ (ofFormula false g).disjuncts) + 1 := rfl
  rw [Fits, disjuncts_eq, height_eq, heightOfAll_append]
  omega

end Predicate

open Formula Predicate in
/-- Replacing its leaves by comparisons, a phrase fits into the levels of nesting under which its tokens stand. -/
theorem Formula.Spells.fits {ε : Type} {compare : Clause → Except ε Comparison} {phrase : Phrase} {ts : List Token}
    {f : Formula Clause} {depth : Nat} (spells : Spells phrase ts f depth) {f' : Formula Comparison}
    (traversed : f.traverse compare = .ok f') : Fits depth phrase f' := by
  induction spells generalizing f' with
  | filter =>
    obtain ⟨c, _, rfl⟩ := map_eq_ok_iff.mp traversed
    exact fits_leaf c
  | group _ _ _ ih => exact fits_group (ih traversed)
  | primary _ ih => exact ih traversed
  | not _ _ ih =>
    obtain ⟨inner, inside, rfl⟩ := map_eq_ok_iff.mp traversed
    exact fits_not (ih inside)
  | operand _ ih => exact fits_operand (ih traversed)
  | and _ _ _ leftIh rightIh =>
    obtain ⟨l, r, atLeft, atRight, rfl⟩ := both_eq_ok_iff.mp traversed
    exact fits_and (leftIh atLeft) (rightIh atRight)
  | conjunction _ ih => exact fits_conjunction (ih traversed)
  | or _ _ _ leftIh rightIh =>
    obtain ⟨l, r, atLeft, atRight, rfl⟩ := both_eq_ok_iff.mp traversed
    exact fits_or (leftIh atLeft) (rightIh atRight)

namespace Scope

/-- However long a query is, the nesting limit bounds the height of its predicate: a disjunction of conjunctions
adds two connectives, and every bracket or `not` around it lets in one more. -/
theorem height_of_compileQuery (s : Scope) {mode : Mode} {maxDepth : Nat} {query : Text} {p : Predicate}
    (compiled : s.compileQuery mode maxDepth query = .ok (some p)) : p.height ≤ 2 * (maxDepth + 1) := by
  obtain ⟨f, read, compiled⟩ := compileQuery_eq_some_iff.mp compiled
  obtain ⟨_, l, depth, within, reads⟩ := Formula.ofText?_eq_some_iff.mp read
  rw [compile_eq] at compiled
  obtain ⟨f', traversed, rfl⟩ := map_eq_ok_iff.mp compiled
  obtain ⟨plain, _⟩ := reads.spells.fits traversed
  have whole := (Predicate.height_disjuncts (Predicate.ofFormula false f')).2
  omega

set_option maxRecDepth 4000 in
/-- The bound is reached. -/
theorem height_of_compileQuery_sample :
    let votes (n : Int) : Predicate := .compare ⟨["votes".toList], .eq, .int n⟩
    let p : Predicate := .or [.and [votes 1, .or [.and [votes 2, votes 3], votes 4]], votes 5]
    sample.compileQuery .filter 1 "votes: 1 and (votes: 2 and votes: 3 or votes: 4) or votes: 5".toList = .ok (some p) ∧
      p.height ≤ 2 * (1 + 1) ∧ p.height = 4 := by
  intro votes p
  have compiled : sample.compileQuery .filter 1
      "votes: 1 and (votes: 2 and votes: 3 or votes: 4) or votes: 5".toList = .ok (some p) := by cbv
  exact ⟨compiled, height_of_compileQuery sample compiled, rfl⟩

end Scope

end IssueQuery
