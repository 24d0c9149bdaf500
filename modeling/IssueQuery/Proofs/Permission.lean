import IssueQuery.Proofs.Embedding
import IssueQuery.Proofs.NormalForm
import IssueQuery.Proofs.Request

namespace IssueQuery

/-- A step that ends as another one does, unless a field that is not permitted stops it. -/
def SameIfPermitted {α : Type} (x y : Except QueryError α) : Prop :=
  x = y ∨ ∃ name, x = .error (.fieldNotPermitted name)

namespace SameIfPermitted

variable {α β : Type}

theorem refl (x : Except QueryError α) : SameIfPermitted x x := Or.inl rfl

/-- Whatever comes after a refusal is not reached, so the first refusal decides. -/
theorem bind {x y : Except QueryError α} {f g : α → Except QueryError β} (first : SameIfPermitted x y)
    (second : ∀ a, SameIfPermitted (f a) (g a)) : SameIfPermitted (x >>= f) (y >>= g) := by
  rcases first with rfl | ⟨name, rfl⟩
  · cases x with
    | error e => exact refl _
    | ok a => exact second a
  · exact Or.inr ⟨name, rfl⟩

theorem map {x y : Except QueryError α} (step : SameIfPermitted x y) (f : α → β) :
    SameIfPermitted (x.map f) (y.map f) := by
  rcases step with rfl | ⟨name, rfl⟩
  · exact refl _
  · exact Or.inr ⟨name, rfl⟩

end SameIfPermitted

theorem readSortItems_sameIfPermitted {α : Type} {resolve resolve' : List Text → Direction → Except QueryError α}
    (steps : ∀ path direction, SameIfPermitted (resolve path direction) (resolve' path direction)) (position : Nat)
    (items : List Text) :
    SameIfPermitted (readSortItems resolve position items) (readSortItems resolve' position items) := by
  induction items generalizing position with
  | nil => exact .refl _
  | cons item items ih =>
    rw [readSortItems, readSortItems]
    dsimp only
    split
    · exact ih _
    · split
      · exact .refl _
      · exact (steps _ _).bind fun key => (ih _).bind fun keys => .refl _

namespace Scope

/-- The same schema for an author who may use every field. -/
def unrestricted (s : Scope) : Scope := { s with permitted := none }

section Refusal

variable (s : Scope)

theorem permit_sameIfPermitted (t : Target) : SameIfPermitted (s.permit t) (s.unrestricted.permit t) := by
  have free : s.unrestricted.permit t = .ok t := rfl
  rw [free, permit]
  split
  · exact .refl _
  · exact Or.inr ⟨t.name, rfl⟩

theorem resolve_sameIfPermitted (path : List Text) :
    SameIfPermitted (s.resolve path) (s.unrestricted.resolve path) := by
  have same : s.unrestricted.schema = s.schema := rfl
  rw [resolve, resolve, same]
  cases s.schema.resolve? path with
  | some t => exact s.permit_sameIfPermitted t
  | none => exact .refl _

theorem resolveSort_sameIfPermitted (path : List Text) :
    SameIfPermitted (s.resolveSort path) (s.unrestricted.resolveSort path) := by
  have same : s.unrestricted.schema = s.schema := rfl
  rw [resolveSort, resolveSort, same]
  cases s.schema.resolve? path with
  | some t => exact s.permit_sameIfPermitted t
  | none => exact .refl _

theorem compileFilter_sameIfPermitted (f : Filter) :
    SameIfPermitted (s.compileFilter f) (s.unrestricted.compileFilter f) :=
  (s.resolve_sameIfPermitted f.path).bind fun _ => .refl _

theorem compileCondition_sameIfPermitted (c : Condition) :
    SameIfPermitted (s.compileCondition c) (s.unrestricted.compileCondition c) := by
  cases c with
  | field f => exact s.compileFilter_sameIfPermitted f
  | hashtag name =>
    exact (SameIfPermitted.refl (s.expandHashtag name)).bind fun _ => s.compileFilter_sameIfPermitted _

theorem compileClause_sameIfPermitted (c : Clause) :
    SameIfPermitted (s.compileClause c) (s.unrestricted.compileClause c) := by
  rw [compileClause_eq, compileClause_eq]
  exact (SameIfPermitted.refl _).bind s.compileCondition_sameIfPermitted

theorem compile_sameIfPermitted (negate : Bool) (f : Formula Clause) :
    SameIfPermitted (s.compile negate f) (s.unrestricted.compile negate f) := by
  induction f generalizing negate with
  | leaf c => exact (s.compileClause_sameIfPermitted c).bind fun _ => .refl _
  | and l r left right => exact (left negate).bind fun _ => (right negate).bind fun _ => .refl _
  | or l r left right => exact (left false).bind fun _ => (right false).bind fun _ => .refl _
  | not f ih => exact ih _

theorem compileQuery_sameIfPermitted (mode : Mode) (maxDepth : Nat) (query : Text) :
    SameIfPermitted (s.compileQuery mode maxDepth query) (s.unrestricted.compileQuery mode maxDepth query) := by
  refine (SameIfPermitted.refl (Formula.ofText? mode maxDepth query)).bind fun f => ?_
  cases f with
  | none => exact .refl _
  | some f => exact (s.compile_sameIfPermitted false f).map some

theorem parseSort_sameIfPermitted (t : Text) : SameIfPermitted (s.parseSort t) (s.unrestricted.parseSort t) :=
  readSortItems_sameIfPermitted
    (fun path _ => (s.resolveSort_sameIfPermitted path).bind fun _ => .refl _) 0 (splitCommas false t)

theorem search_sameIfPermitted (settings : Settings) (t : Text) :
    SameIfPermitted (s.search settings t) (s.unrestricted.search settings t) := by
  rw [search_eq, search_eq]
  refine (s.compileQuery_sameIfPermitted .search settings.maxDepth (Search.split t).1).bind fun predicate => ?_
  refine SameIfPermitted.bind ?_ fun sort => .refl _
  cases (Search.split t).2 with
  | none => exact .refl _
  | some clause => exact s.parseSort_sameIfPermitted clause

end Refusal

/-- Whether documents store, under this path, a field that the author of a query may use, or a part of
one. -/
def Opens (s : Scope) (path : List Text) : Prop :=
  ∃ named target, s.schema.resolve? named = some target ∧ s.allows target.field = true ∧ target.path = path

variable {s : Scope}

theorem opens_of_compileFilter {f : Filter} {c : Comparison} (compiled : s.compileFilter f = .ok c) :
    s.Opens c.path := by
  obtain ⟨target, _, resolved, _, _, rfl⟩ := compileFilter_eq_ok_iff.mp compiled
  obtain ⟨leads, allowed⟩ := resolve_eq_ok_iff.mp resolved
  exact ⟨f.path, target, leads, allowed, rfl⟩

theorem opens_of_compileClause {clause : Clause} {c : Comparison} (compiled : s.compileClause clause = .ok c) :
    s.Opens c.path := by
  rw [compileClause_eq_filterOf] at compiled
  obtain ⟨_, _, compiled⟩ := bind_eq_ok_iff.mp compiled
  exact opens_of_compileFilter compiled

theorem opens_of_compileQuery {mode : Mode} {maxDepth : Nat} {query : Text} {p : Predicate}
    (compiled : s.compileQuery mode maxDepth query = .ok (some p)) : ∀ c ∈ p.comparisons, s.Opens c.path := by
  intro c member
  obtain ⟨f, _, compiled⟩ := compileQuery_eq_some_iff.mp compiled
  have clauses := mapM_eq_ok_iff.mp (comparisons_of_compile compiled)
  obtain ⟨clause, _, compiled⟩ := exists_of_mem_forall₂ clauses member
  exact opens_of_compileClause compiled

theorem opens_of_sortKey {path : List Text} {direction : Direction} {key : SortKey}
    (made : s.sortKey path direction = .ok key) : s.Opens key.path := by
  obtain ⟨target, resolved, eq⟩ := bind_eq_ok_iff.mp made
  cases eq
  obtain ⟨leads, allowed⟩ := resolveSort_eq_ok_iff.mp resolved
  exact ⟨path, target, leads, allowed, rfl⟩

theorem opens_of_parseSort {t : Text} {keys : List SortKey} (read : s.parseSort t = .ok keys) :
    ∀ key ∈ keys, s.Opens key.path := by
  intro key member
  obtain ⟨paths, atPaths⟩ := exists_paths_of_readSortItems read
  have steps : paths.mapM (fun p => s.sortKey p.1 p.2) = .ok keys :=
    (readSortItems_of_paths s.sortKey atPaths).symm.trans read
  obtain ⟨_, _, resolved⟩ := exists_of_mem_forall₂ (mapM_eq_ok_iff.mp steps) member
  exact opens_of_sortKey resolved

/-- A list of permitted fields only takes results away, and what is left uses permitted fields alone. A
text is read as without the list or refused because of a field that is not permitted. Every comparison,
also those of hashtags, and every sort key that the text names is stored where the schema stores a
permitted field. Only the default sort, of a text that names no sort key, is open to everyone. -/
theorem permitted_only_removes (s : Schema) (settings : Settings) (mode : Mode) (permitted : List Text) (t : Text) :
    let free : Scope := ⟨s, none⟩
    let bound : Scope := ⟨s, some permitted⟩
    let stored (path : List Text) : Prop := ∃ named target,
      s.resolve? named = some target ∧ target.field.isPermitted permitted = true ∧ target.path = path
    (SameIfPermitted (bound.compileQuery mode settings.maxDepth t) (free.compileQuery mode settings.maxDepth t) ∧
      SameIfPermitted (bound.parseSort t) (free.parseSort t) ∧
      SameIfPermitted (bound.search settings t) (free.search settings t)) ∧
    (∀ p, bound.compileQuery mode settings.maxDepth t = .ok (some p) → ∀ c ∈ p.comparisons, stored c.path) ∧
    (∀ keys, bound.parseSort t = .ok keys → ∀ key ∈ keys, stored key.path) ∧
    ∀ found, bound.search settings t = .ok found →
      (∀ p, found.predicate = some p → ∀ c ∈ p.comparisons, stored c.path) ∧
      ∃ keys, (Search.split t).2.elim (.ok []) bound.parseSort = .ok keys ∧ (∀ key ∈ keys, stored key.path) ∧
        found.sort = if keys.isEmpty then [s.defaultSortKey settings] else keys := by
  intro free bound stored
  refine ⟨⟨bound.compileQuery_sameIfPermitted mode _ t, bound.parseSort_sameIfPermitted t,
    bound.search_sameIfPermitted settings t⟩, fun p => opens_of_compileQuery, fun keys => opens_of_parseSort, ?_⟩
  intro found searched
  rw [search_eq] at searched
  obtain ⟨predicate, compiled, searched⟩ := bind_eq_ok_iff.mp searched
  obtain ⟨keys, sorted, eq⟩ := bind_eq_ok_iff.mp searched
  cases eq
  refine ⟨?_, keys, sorted, ?_, rfl⟩
  · rintro p rfl
    exact opens_of_compileQuery compiled
  · cases clause : (Search.split t).2 with
    | none =>
      rw [clause] at sorted
      cases sorted
      exact nofun
    | some text =>
      rw [clause] at sorted
      exact opens_of_parseSort sorted

/-- The sample for an author who may use two of its fields, one of them a custom field by its name in
another case. -/
def restrictedSample : Scope := ⟨sample.schema, some ["votes".toList, "due date".toList]⟩

set_option maxRecDepth 4000 in
/-- Comparisons under `not`, one of them that of a hashtag, a sort clause and a search that is sorted by
default. -/
theorem permitted_only_removes_sample :
    let stored (path : List Text) : Prop := ∃ named target, sample.schema.resolve? named = some target ∧
      target.field.isPermitted ["votes".toList, "due date".toList] = true ∧ target.path = path
    let dueDate : List Text := ["custom_fields".toList, "G7".toList]
    let popular : Comparison := ⟨["votes".toList], .gte, .int 10⟩
    let p : Predicate := .nor [.compare popular, .compare ⟨dueDate, .eq, .string "soon".toList⟩]
    let keys : List SortKey := [⟨"Due Date".toList, dueDate, .desc⟩, ⟨"votes".toList, ["votes".toList], .asc⟩]
    let found : Search := ⟨some (.compare popular), [sample.schema.defaultSortKey {}]⟩
    (restrictedSample.compileQuery .filter 200 "not (#POPULAR or G7: soon)".toList = .ok (some p) ∧
        ∀ c ∈ p.comparisons, stored c.path) ∧
      (restrictedSample.parseSort "-\"DUE DATE\", votes".toList = .ok keys ∧ ∀ key ∈ keys, stored key.path) ∧
      restrictedSample.search {} "#popular".toList = .ok found ∧
      (∀ p, found.predicate = some p → ∀ c ∈ p.comparisons, stored c.path) ∧
      ∃ keys, (Search.split "#popular".toList).2.elim (.ok []) restrictedSample.parseSort = .ok keys ∧
        (∀ key ∈ keys, stored key.path) ∧
        found.sort = if keys.isEmpty then [sample.schema.defaultSortKey {}] else keys := by
  intro stored dueDate popular p keys found
  have compiled : restrictedSample.compileQuery .filter 200 "not (#POPULAR or G7: soon)".toList = .ok (some p) := by
    cbv
  have sorted : restrictedSample.parseSort "-\"DUE DATE\", votes".toList = .ok keys := by rfl
  have split : Search.split "#popular".toList = ("#popular".toList, none) := by decide +kernel
  have alone : restrictedSample.compileQuery .search 200 "#popular".toList = .ok (some (.compare popular)) := by cbv
  have searched : restrictedSample.search {} "#popular".toList = .ok found := by
    rw [search_eq, split, alone]
    rfl
  have restricted := permitted_only_removes sample.schema {} .filter ["votes".toList, "due date".toList]
  exact ⟨⟨compiled, (restricted _).2.1 p compiled⟩, ⟨sorted, (restricted _).2.2.1 keys sorted⟩, searched,
    (restricted _).2.2.2 found searched⟩

end Scope

end IssueQuery
