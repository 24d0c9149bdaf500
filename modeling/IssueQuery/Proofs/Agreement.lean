import IssueQuery.Proofs.Negation
import IssueQuery.Proofs.RequestText
import IssueQuery.Proofs.Stability

namespace IssueQuery

theorem Filter.readItems_ne_nil {isFirst : Bool} {t : Text} {items : List Text}
    (read : readItems isFirst t = .ok items) : items ≠ [] := by
  rw [readItems] at read
  split at read
  · cases read
  · split at read
    · cases read
    · split at read
      · cases read
        exact List.cons_ne_nil _ _
      · split at read
        · obtain ⟨more, _, rfl⟩ := map_eq_ok_iff.mp read
          exact List.cons_ne_nil _ _
        · cases read

/-- A filter that is read from text has a value with at least one item. -/
theorem Condition.items_ne_nil {t : Text} {f : Filter} (read : Condition.read t = .ok (.field f)) :
    f.value.items ≠ [] := by
  unfold Condition.read at read
  split at read
  · split at read <;> cases read
  · obtain ⟨⟨⟨path, op⟩, rest⟩, _, read⟩ := bind_eq_ok_iff.mp read
    dsimp only at read
    split at read
    · obtain ⟨items, atItems, eq⟩ := bind_eq_ok_iff.mp read
      cases eq
      rw [RawValue.items_ofItems]
      exact Filter.readItems_ne_nil atItems
    · cases read

theorem Request.items_ne_nil {maxDepth : Nat} {t : Text} {q : Request} (read : Request.ofText? maxDepth t = .ok q)
    {f : Filter} (member : .field f ∈ q.conditions) : f.value.items ≠ [] := by
  obtain ⟨_, cs, _, _, atClauses, _⟩ := Request.ofText?_eq_ok_iff.mp read
  obtain ⟨c, _, atClause⟩ := exists_of_mem_forall₂ (mapM_eq_ok_iff.mp atClauses) member
  exact Condition.items_ne_nil (Condition.ofText?_eq_ok_iff.mp atClause)

/-- A step that succeeds unless some text cannot be written in a query. -/
def SucceedsIfQuotable {α : Type} (x : Except QueryError α) : Prop :=
  (∃ a, x = .ok a) ∨ ∃ v, x = .error (.unquotableValue v)

namespace SucceedsIfQuotable

variable {α β : Type}

theorem ok (a : α) : SucceedsIfQuotable (.ok a) := Or.inl ⟨a, rfl⟩

theorem bind {x : Except QueryError α} {f : α → Except QueryError β} (first : SucceedsIfQuotable x)
    (second : ∀ a, SucceedsIfQuotable (f a)) : SucceedsIfQuotable (x >>= f) := by
  rcases first with ⟨a, rfl⟩ | ⟨v, rfl⟩
  · exact second a
  · exact Or.inr ⟨v, rfl⟩

theorem map {x : Except QueryError α} (step : SucceedsIfQuotable x) (f : α → β) : SucceedsIfQuotable (x.map f) := by
  rcases step with ⟨a, rfl⟩ | ⟨v, rfl⟩
  · exact ok (f a)
  · exact Or.inr ⟨v, rfl⟩

theorem mapM {step : α → Except QueryError β} {xs : List α} (steps : ∀ x ∈ xs, SucceedsIfQuotable (step x)) :
    SucceedsIfQuotable (xs.mapM step) := by
  induction xs with
  | nil => exact ok []
  | cons x xs ih =>
    rw [List.mapM_cons]
    refine bind (steps x List.mem_cons_self) fun b => ?_
    exact bind (ih fun y member => steps y (List.mem_cons_of_mem x member)) fun bs => ok (b :: bs)

end SucceedsIfQuotable

namespace Filter

theorem succeedsIfQuotable_renderField (field : FieldDef) (rest : List Text) :
    SucceedsIfQuotable (renderField field rest) := by
  unfold renderField
  dsimp only
  split
  · exact .ok _
  · split
    · exact .ok _
    · split
      · split
        · exact .ok _
        · exact Or.inr ⟨_, rfl⟩
      · exact Or.inr ⟨_, rfl⟩

theorem succeedsIfQuotable_renderItem (item : Text) : SucceedsIfQuotable (renderItem item) := by
  unfold renderItem
  split
  · exact Or.inr ⟨_, rfl⟩
  · split <;> exact .ok _

theorem renderItems_eq (items : List Text) : renderItems items = items.mapM renderItem := by
  induction items with
  | nil => rfl
  | cons item items ih => rw [renderItems, List.mapM_cons, ih]

theorem succeedsIfQuotable_renderValue (v : RawValue) : SucceedsIfQuotable (renderValue v) := by
  rw [renderValue, renderItems_eq]
  exact (SucceedsIfQuotable.mapM fun item _ => succeedsIfQuotable_renderItem item).map _

end Filter

namespace Scope

variable {s : Scope} {settings : Settings}

/-- How a condition is reported: a filter under the name that its path leads to, with the type and the id
found there and the value in the form of its operator, a hashtag under its declared name. -/
inductive Reports (s : Scope) : Condition → ReportedFilter → Prop
  | field {f : Filter} {target : Target} : s.resolve f.path = .ok target →
      Reports s (.field f) (.field target.name f.operator (f.value.normalizedFor f.effectiveOperator)
        target.type.label target.field.customId)
  | hashtag {name : Text} {h : Hashtag} : s.schema.hashtag? name = some h → Reports s (.hashtag name) (.hashtag h.name)

/-- A condition that is reported compiles. -/
theorem reports_of_conditionClause {c : Condition} {clause : FilterClause}
    (written : s.conditionClause c = .ok clause) :
    s.Reports c clause.filter ∧ ∃ comparison, s.compileCondition c = .ok comparison := by
  cases writes_of_conditionClause written with
  | field compiled resolved => exact ⟨.field resolved, _, compiled⟩
  | @hashtag _ _ comparison found compiled =>
    refine ⟨.hashtag found, comparison, ?_⟩
    rw [compileCondition, compileHashtag, expandHashtag_eq_ok_iff.mpr ⟨found, rfl⟩]
    exact compiled

/-- A condition that compiles and has a value is reported unless it cannot be quoted. -/
theorem succeedsIfQuotable_conditionClause {c : Condition} {comparison : Comparison}
    (compiled : s.compileCondition c = .ok comparison) (nonempty : ∀ f, c = .field f → f.value.items ≠ []) :
    SucceedsIfQuotable (s.conditionClause c) := by
  cases c with
  | field f =>
    obtain ⟨target, resolved, _⟩ := bind_eq_ok_iff.mp compiled
    rw [compileCondition] at compiled
    rw [conditionClause, filterClause, if_neg (nonempty f rfl), compiled, ok_bind, resolved, ok_bind]
    refine (Filter.succeedsIfQuotable_renderField _ _).bind fun field => ?_
    exact (Filter.succeedsIfQuotable_renderValue _).bind fun items => .ok _
  | hashtag name =>
    obtain ⟨⟨h, f⟩, expanded, compiled⟩ := bind_eq_ok_iff.mp compiled
    rw [conditionClause, hashtagClause, expanded, ok_bind]
    dsimp only at compiled ⊢
    rw [compiled, ok_bind]
    split
    · exact .ok _
    · exact Or.inr ⟨_, rfl⟩

/-- A sort key is reported as what its path leads to. -/
theorem exists_target_of_sortClause {path : List Text} {direction : Direction} {clause : SortClause}
    (written : s.sortClause path direction = .ok clause) :
    ∃ target, s.resolveSort path = .ok target ∧ clause.sort = target.reportedSort direction := by
  obtain ⟨target, resolved, written⟩ := bind_eq_ok_iff.mp written
  obtain ⟨_, _, eq⟩ := bind_eq_ok_iff.mp written
  cases eq
  exact ⟨target, resolved, rfl⟩

/-- A sort key that is reported is searched by, under the reported name. -/
theorem sortKey_of_sortClause {path : List Text} {direction : Direction} {clause : SortClause}
    (written : s.sortClause path direction = .ok clause) :
    ∃ key, s.sortKey path direction = .ok key ∧ (key.field, key.direction) = (clause.sort.name, clause.sort.direction) := by
  obtain ⟨target, resolved, sort⟩ := exists_target_of_sortClause written
  refine ⟨⟨target.name, target.path, direction⟩, ?_, by rw [sort]; rfl⟩
  rw [sortKey, resolved]
  rfl

theorem succeedsIfQuotable_sortClause {path : List Text} {direction : Direction} {key : SortKey}
    (resolved : s.sortKey path direction = .ok key) : SucceedsIfQuotable (s.sortClause path direction) := by
  obtain ⟨target, resolved, _⟩ := bind_eq_ok_iff.mp resolved
  rw [sortClause, resolved, ok_bind]
  exact (Filter.succeedsIfQuotable_renderField _ _).bind fun field => .ok _

theorem defaultSortKey_eq (s : Scope) (settings : Settings) :
    ((s.schema.defaultSortKey settings).field, (s.schema.defaultSortKey settings).direction) =
      ((s.defaultSort settings).name, (s.defaultSort settings).direction) := by
  unfold Schema.defaultSortKey defaultSort
  dsimp only
  cases s.schema.resolve? (Filter.namePath settings.defaultSortField) <;> rfl

/-- A request that is reported is searched for by the comparisons of its conditions, and in the order
that is reported. -/
theorem searchRequest_of_reportRequest {q : Request} {r : Report} (reported : s.reportRequest settings q = .ok r) :
    ∃ comparisons keys, List.Forall₂ s.Reports q.conditions r.filters ∧
      List.Forall₂ (fun c comparison => s.compileCondition c = .ok comparison) q.conditions comparisons ∧
      s.searchRequest settings q = .ok ⟨Predicate.ofComparisons? comparisons, keys⟩ ∧
      keys.map (fun key => (key.field, key.direction)) = r.sortBy.map fun key => (key.name, key.direction) := by
  obtain ⟨filters, sorts, atFilters, atSorts, rfl⟩ := reportRequest_eq_ok_iff.mp reported
  have reports : List.Forall₂ s.Reports q.conditions (filters.map FilterClause.filter) :=
    List.forall₂_map_right_iff.mpr (atFilters.imp fun _ _ written => (reports_of_conditionClause written).1)
  obtain ⟨comparisons, compiled, _⟩ := forall₂_exists_iff.mp (atFilters.imp fun c _ written =>
    (reports_of_conditionClause written).2.imp fun _ made => And.intro made trivial)
  obtain ⟨keys, sorted, same⟩ := forall₂_exists_iff.mp (atSorts.imp fun _ _ => sortKey_of_sortClause)
  refine ⟨comparisons, _, reports, compiled, searchRequest_eq_ok_iff.mpr ⟨_, keys, compiled, sorted, rfl⟩, ?_⟩
  · have together : keys.map (fun key => (key.field, key.direction)) =
        sorts.map fun clause => (clause.sort.name, clause.sort.direction) := by
      rw [← List.forall₂_eq_eq_eq, List.forall₂_map_left_iff, List.forall₂_map_right_iff]
      exact same
    cases same with
    | nil => exact congrArg (fun pair => [pair]) (s.defaultSortKey_eq settings)
    | cons => simpa [report, Function.comp_def] using together

/-- A request that is searched for is reported if its filters have values, unless something in it cannot
be quoted. -/
theorem succeedsIfQuotable_reportRequest {q : Request} {found : Search}
    (searched : s.searchRequest settings q = .ok found)
    (valued : ∀ f, .field f ∈ q.conditions → f.value.items ≠ []) :
    SucceedsIfQuotable (s.reportRequest settings q) := by
  obtain ⟨comparisons, keys, compiled, sorted, _⟩ := searchRequest_eq_ok_iff.mp searched
  have conditions : ∀ c ∈ q.conditions, SucceedsIfQuotable (s.conditionClause c) := by
    intro c member
    obtain ⟨comparison, _, compiled⟩ := exists_of_mem_forall₂ compiled.flip member
    refine succeedsIfQuotable_conditionClause compiled ?_
    rintro f rfl
    exact valued f member
  have sortBy : ∀ key ∈ q.sortBy, SucceedsIfQuotable (s.sortClause key.1 key.2) := by
    intro key member
    obtain ⟨_, _, resolved⟩ := exists_of_mem_forall₂ sorted.flip member
    exact succeedsIfQuotable_sortClause resolved
  exact (SucceedsIfQuotable.mapM conditions).bind fun filters =>
    (SucceedsIfQuotable.mapM sortBy).bind fun sorts => .ok _

/-- Reports and searches read text the same way. A text that is reported is searched for by the
comparisons of its reported filters, each of them once and in their order, and in the order that is
reported. A text without `not` that is searched for is reported, unless it has a text that cannot be
quoted. -/
theorem search_agrees_with_reportText (s : Scope) (settings : Settings) (t : Text) :
    (∀ r, s.reportText settings t = .ok r → ∃ f conditions comparisons keys,
      Formula.ofText? .search settings.maxDepth (Search.split t).1 = .ok f ∧
      List.Forall₂ (fun leaf c => Condition.read leaf.text = .ok c) (f.elim [] Formula.leaves) conditions ∧
      List.Forall₂ s.Reports conditions r.filters ∧
      List.Forall₂ (fun c comparison => s.compileCondition c = .ok comparison) conditions comparisons ∧
      s.search settings t = .ok ⟨Predicate.ofComparisons? comparisons, keys⟩ ∧
      keys.map (fun key => (key.field, key.direction)) = r.sortBy.map fun key => (key.name, key.direction)) ∧
    ∀ f found, Formula.ofText? .search settings.maxDepth (Search.split t).1 = .ok f →
      f.any Formula.containsNot = false → s.search settings t = .ok found →
      SucceedsIfQuotable (s.reportText settings t) := by
  constructor
  · intro r reported
    obtain ⟨q, read, reported⟩ := exists_request_of_reportText reported
    obtain ⟨comparisons, keys, reports, compiled, searched, sorted⟩ := searchRequest_of_reportRequest reported
    obtain ⟨f, cs, atFilter, conjuncts, atClauses, _⟩ := Request.ofText?_eq_ok_iff.mp read
    have leaves : f.elim [] Formula.leaves = cs := by
      have parts := conjuncts_of_conjunction conjuncts
      cases f with
      | none => exact Option.some.inj parts
      | some f => exact Formula.leaves_of_conjuncts? parts
    refine ⟨f, q.conditions, comparisons, keys, atFilter, ?_, reports, compiled,
      (search_of_read read).trans searched, sorted⟩
    rw [leaves]
    exact (mapM_eq_ok_iff.mp atClauses).imp fun _ _ => Condition.ofText?_eq_ok_iff.mp
  · intro f found atFilter noNot searched
    have plain : ∀ g, Formula.ofText? .search settings.maxDepth (Search.split t).1 = .ok (some g) →
        g.containsNot = false := by
      intro g atG
      rw [atFilter] at atG
      cases atG
      exact noNot
    obtain ⟨q, read, searched⟩ := exists_request_of_search searched plain
    rw [reportText_of_read read]
    exact succeedsIfQuotable_reportRequest searched fun f => Request.items_ne_nil read

set_option maxRecDepth 4000 in
/-- Conditions in brackets, one of them a hashtag in another case, and a sort clause. -/
theorem search_agrees_with_reportText_sample :
    let t : Text := "(#POPULAR and (votes:3)) sort by:-votes".toList
    let f : Formula Clause := .and (.leaf ⟨"#POPULAR".toList, 1, 8⟩) (.leaf ⟨"votes:3".toList, 15, 21⟩)
    let r : Report :=
      { query := "#popular and votes: 3 sort by: -votes".toList
        filters := [.hashtag "popular".toList, .field "votes".toList none (.scalar "3".toList) "int".toList none]
        sortBy := [⟨"votes".toList, .desc, some "int".toList, none⟩]
        availableFields := [⟨"labels".toList, "list<string>".toList, none⟩,
          ⟨"Due Date".toList, "datetime".toList, some "G7".toList⟩] }
    Formula.ofText? .search 200 (Search.split t).1 = .ok (some f) ∧ f.containsNot = false ∧
      sample.reportText {} t = .ok r ∧
      (∃ f conditions comparisons keys,
        Formula.ofText? .search 200 (Search.split t).1 = .ok f ∧
        List.Forall₂ (fun leaf c => Condition.read leaf.text = .ok c) (f.elim [] Formula.leaves) conditions ∧
        List.Forall₂ sample.Reports conditions r.filters ∧
        List.Forall₂ (fun c comparison => sample.compileCondition c = .ok comparison) conditions comparisons ∧
        sample.search {} t = .ok ⟨Predicate.ofComparisons? comparisons, keys⟩ ∧
        keys.map (fun key => (key.field, key.direction)) = r.sortBy.map fun key => (key.name, key.direction)) ∧
      SucceedsIfQuotable (sample.reportText {} t) := by
  intro t f r
  have split : Search.split t = ("(#POPULAR and (votes:3)) ".toList, some "-votes".toList) := by decide +kernel
  have atFilter : Formula.ofText? .search 200 "(#POPULAR and (votes:3)) ".toList = .ok (some f) := by rfl
  have read : Formula.ofText? .search 200 (Search.split t).1 = .ok (some f) := by
    rw [split]
    exact atFilter
  have hashtag : Condition.read "#POPULAR".toList = .ok (.hashtag "POPULAR".toList) := by cbv
  have filter : Condition.read "votes:3".toList = .ok (.field ⟨["votes".toList], none, .scalar "3".toList⟩) := by cbv
  have conjuncts : conjunction (some f) = .ok [⟨"#POPULAR".toList, 1, 8⟩, ⟨"votes:3".toList, 15, 21⟩] := by rfl
  have key : readSortPaths "-votes".toList = .ok [(["votes".toList], .desc)] := by rfl
  have request : Request.ofText? ({} : Settings).maxDepth t = .ok ⟨[.hashtag "POPULAR".toList,
      .field ⟨["votes".toList], none, .scalar "3".toList⟩], [(["votes".toList], .desc)]⟩ :=
    Request.ofText?_of_parts split atFilter conjuncts (.cons hashtag (.cons filter .nil)) key
  have reported : sample.reportText {} t = .ok r := by
    rw [reportText_of_read request]
    rfl
  have agree := search_agrees_with_reportText sample {} t
  obtain ⟨g, conditions, comparisons, keys, whole⟩ := agree.1 r reported
  exact ⟨read, rfl, reported, ⟨g, conditions, comparisons, keys, whole⟩,
    agree.2 (some f) _ read rfl whole.2.2.2.2.1⟩

end Scope

end IssueQuery
