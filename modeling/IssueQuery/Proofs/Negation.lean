import Mathlib
import IssueQuery.Compile
import IssueQuery.Proofs.Success

namespace IssueQuery

namespace Formula

variable {α β ε : Type}

/-- Replaces the leaves from left to right, up to the first one that has no replacement. -/
def traverse (g : α → Except ε β) : Formula α → Except ε (Formula β)
  | .leaf a => (g a).map .leaf
  | .and l r => do return .and (← l.traverse g) (← r.traverse g)
  | .or l r => do return .or (← l.traverse g) (← r.traverse g)
  | .not p => (p.traverse g).map .not

theorem map_map {γ : Type} (g : α → β) (h : β → γ) (f : Formula α) :
    (f.map g).map h = f.map fun a => h (g a) := by
  induction f with
  | leaf a => rfl
  | and l r left right | or l r left right => simp only [map, left, right]
  | not p ih => simp only [map, ih]

/-- A traversal succeeds when every leaf has a replacement. -/
theorem traverse_eq_ok_iff {g : α → Except ε β} {f : Formula α} {f' : Formula β} :
    f.traverse g = .ok f' ↔ (f.map fun a => (g a).toOption) = f'.map some := by
  induction f generalizing f' with
  | leaf a =>
    rw [traverse, map]
    cases f' <;> cases g a <;> simp [map, Except.map, Except.toOption]
  | and l r left right =>
    rw [traverse, map, both_eq_ok_iff]
    constructor
    · rintro ⟨l', r', atLeft, atRight, rfl⟩
      rw [map, left.mp atLeft, right.mp atRight]
    · intro same
      cases f' with
      | and l' r' =>
        obtain ⟨atLeft, atRight⟩ := and.inj same
        exact ⟨l', r', left.mpr atLeft, right.mpr atRight, rfl⟩
      | leaf | or | not => cases same
  | or l r left right =>
    rw [traverse, map, both_eq_ok_iff]
    constructor
    · rintro ⟨l', r', atLeft, atRight, rfl⟩
      rw [map, left.mp atLeft, right.mp atRight]
    · intro same
      cases f' with
      | or l' r' =>
        obtain ⟨atLeft, atRight⟩ := or.inj same
        exact ⟨l', r', left.mpr atLeft, right.mpr atRight, rfl⟩
      | leaf | and | not => cases same
  | not p ih =>
    rw [traverse, map, map_eq_ok_iff]
    constructor
    · rintro ⟨p', atInner, rfl⟩
      rw [map, ih.mp atInner]
    · intro same
      cases f' with
      | not p' => exact ⟨p', ih.mpr (not.inj same), rfl⟩
      | leaf | and | or => cases same

theorem leaves_map (g : α → β) (f : Formula α) : (f.map g).leaves = f.leaves.map g := by
  induction f with
  | leaf a => rfl
  | and l r left right | or l r left right => simp only [map, leaves, left, right, List.map_append]
  | not p ih => exact ih

/-- A traversal replaces the leaves one by one, from left to right. -/
theorem leaves_traverse (g : α → Except ε β) (f : Formula α) : (f.traverse g).map leaves = f.leaves.mapM g := by
  induction f with
  | leaf a =>
    rw [traverse, leaves, List.mapM_cons, List.mapM_nil]
    cases g a <;> rfl
  | and l r left right | or l r left right =>
    rw [traverse, leaves, List.mapM_append, ← left, ← right]
    cases l.traverse g <;> cases r.traverse g <;> rfl
  | not p ih =>
    rw [traverse, leaves, ← ih]
    cases p.traverse g <;> rfl

theorem eval_map (g : α → β) (holds : β → Bool) (f : Formula α) :
    (f.map g).eval holds = f.eval fun a => holds (g a) := by
  induction f with
  | leaf a => rfl
  | and l r left right | or l r left right => simp only [map, eval, left, right]
  | not p ih => simp only [map, eval, ih]

end Formula

namespace Predicate

/-- The predicate of a formula of comparisons, or of its negation. -/
def ofFormula (negate : Bool) : Formula Comparison → Predicate
  | .leaf c => if negate then .not c else .compare c
  | .and l r =>
    if negate then (ofFormula negate l).disj (ofFormula negate r)
    else (ofFormula negate l).conj (ofFormula negate r)
  | .or l r =>
    if negate then (ofFormula false l).neither (ofFormula false r)
    else (ofFormula false l).disj (ofFormula false r)
  | .not f => ofFormula (!negate) f

theorem allHold_append (doc : Json) (ps qs : List Predicate) :
    allHold doc (ps ++ qs) = (allHold doc ps && allHold doc qs) := by
  induction ps with
  | nil => rfl
  | cons p ps ih => rw [List.cons_append, allHold, allHold, ih, Bool.and_assoc]

theorem anyHolds_append (doc : Json) (ps qs : List Predicate) :
    anyHolds doc (ps ++ qs) = (anyHolds doc ps || anyHolds doc qs) := by
  induction ps with
  | nil => rfl
  | cons p ps ih => rw [List.cons_append, anyHolds, anyHolds, ih, Bool.or_assoc]

theorem allHold_conjuncts (doc : Json) (p : Predicate) : allHold doc p.conjuncts = p.holds doc := by
  cases p <;> simp [conjuncts, allHold, holds]

theorem anyHolds_disjuncts (doc : Json) (p : Predicate) : anyHolds doc p.disjuncts = p.holds doc := by
  cases p <;> simp [disjuncts, anyHolds, holds]

theorem holds_conj (doc : Json) (p q : Predicate) :
    (p.conj q).holds doc = (p.holds doc && q.holds doc) := by
  rw [conj, holds, allHold_append, allHold_conjuncts, allHold_conjuncts]

theorem holds_disj (doc : Json) (p q : Predicate) :
    (p.disj q).holds doc = (p.holds doc || q.holds doc) := by
  rw [disj, holds, anyHolds_append, anyHolds_disjuncts, anyHolds_disjuncts]

theorem holds_neither (doc : Json) (p q : Predicate) :
    (p.neither q).holds doc = !(p.holds doc || q.holds doc) := by
  rw [neither, holds, anyHolds_append, anyHolds_disjuncts, anyHolds_disjuncts]

theorem holds_ofFormula (doc : Json) (negate : Bool) (f : Formula Comparison) :
    (ofFormula negate f).holds doc = (f.eval (·.holds doc) ^^ negate) := by
  induction f generalizing negate with
  | leaf c => cases negate <;> simp [ofFormula, holds, Formula.eval]
  | and l r left right =>
    cases negate <;> simp [ofFormula, holds_conj, holds_disj, left, right, Formula.eval]
  | or l r left right =>
    cases negate <;> simp [ofFormula, holds_disj, holds_neither, left, right, Formula.eval]
  | not f ih => simp [ofFormula, ih, Formula.eval]

end Predicate

namespace Scope

/-- Compiling a formula compiles its leaves from left to right; the connectives cannot fail. -/
theorem compile_eq (s : Scope) (negate : Bool) (f : Formula Clause) :
    s.compile negate f = (f.traverse s.compileClause).map (Predicate.ofFormula negate) := by
  induction f generalizing negate with
  | leaf c =>
    rw [compile, Formula.traverse]
    cases s.compileClause c <;> rfl
  | and l r left right =>
    rw [compile, Formula.traverse, left, right]
    cases l.traverse s.compileClause <;> cases r.traverse s.compileClause <;> rfl
  | or l r left right =>
    rw [compile, Formula.traverse, left, right]
    cases l.traverse s.compileClause <;> cases r.traverse s.compileClause <;> rfl
  | not f ih =>
    rw [compile, Formula.traverse, ih]
    cases f.traverse s.compileClause <;> rfl

/-- Whether a document satisfies one clause of a query. A clause that does not compile is satisfied by
none. -/
def clauseHolds (s : Scope) (doc : Json) (c : Clause) : Bool :=
  (s.compileClause c).toOption.any (·.holds doc)

/-- Every clause of a formula that compiles has a comparison. -/
theorem exists_comparison_of_compile (s : Scope) {negate : Bool} {f : Formula Clause} {p : Predicate}
    (compiled : s.compile negate f = .ok p) {c : Clause} (member : c ∈ f.leaves) :
    ∃ comparison, s.compileClause c = .ok comparison := by
  rw [compile_eq] at compiled
  obtain ⟨f', traversed, rfl⟩ := map_eq_ok_iff.mp compiled
  have atLeaves := congrArg Formula.leaves (Formula.traverse_eq_ok_iff.mp traversed)
  rw [Formula.leaves_map, Formula.leaves_map] at atLeaves
  have atClause : (s.compileClause c).toOption ∈ f'.leaves.map some := by
    rw [← atLeaves]
    exact List.mem_map_of_mem member
  obtain ⟨comparison, _, eq⟩ := List.mem_map.mp atClause
  exact ⟨comparison, toOption_eq_some_iff.mp eq.symm⟩

/-- Pushing negation inwards keeps the meaning: a compiled formula holds of exactly the documents that
satisfy the formula, or, if it is compiled negated, of exactly the others. All its clauses compile. -/
theorem holds_of_compile (s : Scope) {negate : Bool} {f : Formula Clause} {p : Predicate}
    (compiled : s.compile negate f = .ok p) (doc : Json) :
    (∀ c ∈ f.leaves, ∃ comparison, s.compileClause c = .ok comparison) ∧
      p.holds doc = (f.eval (s.clauseHolds doc) ^^ negate) := by
  refine ⟨fun c member => s.exists_comparison_of_compile compiled member, ?_⟩
  rw [compile_eq] at compiled
  obtain ⟨f', traversed, rfl⟩ := map_eq_ok_iff.mp compiled
  have agree := congrArg (Formula.eval (Option.any (·.holds doc))) (Formula.traverse_eq_ok_iff.mp traversed)
  rw [Formula.eval_map, Formula.eval_map] at agree
  rw [Predicate.holds_ofFormula]
  exact congrArg (· ^^ negate) agree.symm

/-- Some fields of an issue tracker, all of them permitted. -/
def sample : Scope :=
  { schema :=
      { fields := [⟨"votes".toList, .int, none⟩, ⟨"labels".toList, .list .string, none⟩,
          ⟨"Due Date".toList, .datetime, some "G7".toList⟩]
        hashtags := [⟨"popular".toList, "votes".toList, some .gte, "10".toList⟩] }
    permitted := none }

set_option maxRecDepth 4000 in
/-- A conjunction, compiled negated, on a document that lacks one of its fields. -/
theorem holds_of_compile_negated :
    let f : Formula Clause :=
      .and (.or (.leaf ⟨"votes: 3".toList, 0, 7⟩) (.leaf ⟨"labels: ui".toList, 12, 21⟩))
        (.not (.leaf ⟨"votes___lt: 2".toList, 31, 43⟩))
    let p : Predicate :=
      .or [.nor [.compare ⟨["votes".toList], .eq, .int 3⟩, .compare ⟨["labels".toList], .eq, .string "ui".toList⟩],
        .compare ⟨["votes".toList], .lt, .int 2⟩]
    let doc : Json := .object [("labels".toList, .array [.string "ui".toList, .null])]
    sample.compile true f = .ok p ∧
      (∀ c ∈ f.leaves, ∃ comparison, sample.compileClause c = .ok comparison) ∧
      p.holds doc = (f.eval (sample.clauseHolds doc) ^^ true) := by
  intro f p doc
  have compiled : sample.compile true f = .ok p := by cbv
  exact ⟨compiled, holds_of_compile sample compiled doc⟩

end Scope

end IssueQuery
