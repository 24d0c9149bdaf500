import IssueQuery.Proofs.ClauseText

namespace IssueQuery

/-- What a query asks for, before a schema gives it a meaning: the conditions that all have to hold and
the paths to sort by. -/
structure Request where
  conditions : List Condition
  sortBy : List (List Text × Direction)

/-- The paths of a sort clause. -/
def readSortPaths (t : Text) : Except QueryError (List (List Text × Direction)) :=
  readSortClause (fun path direction => .ok (path, direction)) t

/-- Reads a query text whose filters are a conjunction. -/
def Request.ofText? (maxDepth : Nat) (t : Text) : Except QueryError Request := do
  let (filter, clause) := Search.split t
  let f ← Formula.ofText? .search maxDepth filter
  let cs ← Scope.conjunction f
  let conditions ← cs.mapM fun c => Condition.ofText? c.start c.text
  let sortBy ← clause.elim (.ok []) readSortPaths
  return ⟨conditions, sortBy⟩

theorem Request.ofText?_eq_ok_iff {maxDepth : Nat} {t : Text} {q : Request} :
    ofText? maxDepth t = .ok q ↔ ∃ f cs, Formula.ofText? .search maxDepth (Search.split t).1 = .ok f ∧
      Scope.conjunction f = .ok cs ∧ cs.mapM (fun c => Condition.ofText? c.start c.text) = .ok q.conditions ∧
      (Search.split t).2.elim (.ok []) readSortPaths = .ok q.sortBy := by
  unfold ofText?
  constructor
  · intro read
    obtain ⟨f, atFilter, read⟩ := bind_eq_ok_iff.mp read
    obtain ⟨cs, conjuncts, read⟩ := bind_eq_ok_iff.mp read
    obtain ⟨conditions, atClauses, read⟩ := bind_eq_ok_iff.mp read
    obtain ⟨sortBy, atSort, eq⟩ := bind_eq_ok_iff.mp read
    cases eq
    exact ⟨f, cs, atFilter, conjuncts, atClauses, atSort⟩
  · rintro ⟨f, cs, atFilter, conjuncts, atClauses, atSort⟩
    simp only [bind, Except.bind, atFilter, conjuncts, atClauses, atSort]
    rfl

section SortItems

variable {α : Type} {resolve : List Text → Direction → Except QueryError α} {position : Nat} {item : Text}
  {items : List Text}

theorem readSortItems_cons_of_blank (blank : Text.trim item = []) :
    readSortItems resolve position (item :: items) = readSortItems resolve (position + item.length + 1) items :=
  if_pos blank

theorem readSortItems_cons_of_readPath (visible : Text.trim item ≠ []) {path : List Text}
    (atPath : Filter.readPath (Direction.split (Text.trim item)).2 = .ok path) :
    readSortItems resolve position (item :: items) = do
      let a ← resolve path (Direction.split (Text.trim item)).1
      return a :: (← readSortItems resolve (position + item.length + 1) items) := by
  rw [readSortItems, if_neg visible]
  dsimp only
  rw [atPath]

theorem readSortItems_cons_of_fault (visible : Text.trim item ≠ []) {fault : Fault}
    (atPath : Filter.readPath (Direction.split (Text.trim item)).2 = .error fault) :
    readSortItems resolve position (item :: items) = .error (.invalidExpression (Text.trim item) position fault) := by
  rw [readSortItems, if_neg visible]
  dsimp only
  rw [atPath]

/-- The parts of a sort clause that are not blank are its keys. -/
theorem readSortItems_cons_eq_ok_iff {found : List α} :
    readSortItems resolve position (item :: items) = .ok found ↔
      (Text.trim item = [] ∧ readSortItems resolve (position + item.length + 1) items = .ok found) ∨
        (Text.trim item ≠ [] ∧ ∃ path a rest, Filter.readPath (Direction.split (Text.trim item)).2 = .ok path ∧
          resolve path (Direction.split (Text.trim item)).1 = .ok a ∧
          readSortItems resolve (position + item.length + 1) items = .ok rest ∧ a :: rest = found) := by
  by_cases blank : Text.trim item = []
  · simp only [readSortItems_cons_of_blank blank, blank, true_and, ne_eq, not_true_eq_false, false_and, or_false]
  · simp only [blank, false_and, ne_eq, not_false_eq_true, true_and, false_or]
    cases atPath : Filter.readPath (Direction.split (Text.trim item)).2 with
    | error fault =>
      rw [readSortItems_cons_of_fault blank atPath]
      simp
    | ok path =>
      rw [readSortItems_cons_of_readPath blank atPath, both_eq_ok_iff]
      simp

end SortItems

/-- Once the paths of sort keys have been read, what they are read for is up to each of them alone. -/
theorem readSortItems_of_paths {α : Type} (resolve : List Text → Direction → Except QueryError α)
    {position : Nat} {items : List Text} {keys : List (List Text × Direction)}
    (read : readSortItems (fun path direction => .ok (path, direction)) position items = .ok keys) :
    readSortItems resolve position items = keys.mapM fun key => resolve key.1 key.2 := by
  induction items generalizing position keys with
  | nil =>
    cases read
    rfl
  | cons item items ih =>
    rcases readSortItems_cons_eq_ok_iff.mp read with ⟨blank, more⟩ | ⟨visible, path, _, rest, atPath, eq, more, rfl⟩
    · rw [readSortItems_cons_of_blank blank]
      exact ih more
    · cases eq
      rw [readSortItems_cons_of_readPath visible atPath, List.mapM_cons, ih more]

theorem exists_paths_of_readSortItems {α : Type} {resolve : List Text → Direction → Except QueryError α}
    {position : Nat} {items : List Text} {found : List α} (read : readSortItems resolve position items = .ok found) :
    ∃ keys, readSortItems (fun path direction => .ok (path, direction)) position items = .ok keys := by
  induction items generalizing position found with
  | nil => exact ⟨[], rfl⟩
  | cons item items ih =>
    rcases readSortItems_cons_eq_ok_iff.mp read with ⟨blank, more⟩ | ⟨visible, path, _, _, atPath, _, more, _⟩
    · obtain ⟨keys, paths⟩ := ih more
      exact ⟨keys, readSortItems_cons_eq_ok_iff.mpr (Or.inl ⟨blank, paths⟩)⟩
    · obtain ⟨keys, paths⟩ := ih more
      exact ⟨_, readSortItems_cons_eq_ok_iff.mpr (Or.inr ⟨visible, path, _, keys, atPath, rfl, paths, rfl⟩)⟩

theorem elim_readSortClause {α : Type} (resolve : List Text → Direction → Except QueryError α)
    {clause : Option Text} {keys : List (List Text × Direction)}
    (read : clause.elim (.ok []) readSortPaths = .ok keys) :
    clause.elim (.ok []) (readSortClause resolve) = keys.mapM fun key => resolve key.1 key.2 := by
  cases clause with
  | none =>
    cases read
    rfl
  | some clause => exact readSortItems_of_paths resolve read

theorem exists_paths {α : Type} {resolve : List Text → Direction → Except QueryError α} {clause : Option Text}
    {found : List α} (read : clause.elim (.ok []) (readSortClause resolve) = .ok found) :
    ∃ keys, clause.elim (.ok []) readSortPaths = .ok keys := by
  cases clause with
  | none => exact ⟨[], rfl⟩
  | some clause => exact exists_paths_of_readSortItems read

/-- The condition that an edited filter stands for. A filter on a field has to have a value. -/
def DraftFilter.condition? (f : DraftFilter) : Option Condition :=
  match f.name, f.customId with
  | '#' :: name, none => some (.hashtag name)
  | _, _ => f.value.map fun value => .field ⟨Scope.draftPath f.customId f.name, f.operator, value⟩

/-- Whether an edited filter is a hashtag. -/
def DraftFilter.IsHashtag (f : DraftFilter) : Prop := ∃ name, f.name = '#' :: name ∧ f.customId = none

theorem DraftFilter.condition?_of_hashtag {f : DraftFilter} {name : Text} (hashtag : f.name = '#' :: name)
    (noId : f.customId = none) : f.condition? = some (.hashtag name) := by
  rw [condition?, hashtag, noId]
  rfl

theorem DraftFilter.condition?_of_field {f : DraftFilter} (field : ¬ f.IsHashtag) :
    f.condition? = f.value.map fun value => .field ⟨Scope.draftPath f.customId f.name, f.operator, value⟩ := by
  unfold condition?
  split
  · rename_i name hashtag noId
    exact absurd ⟨name, hashtag, noId⟩ field
  · rfl

/-- The path and the direction of an edited sort key. -/
def DraftSort.key (k : DraftSort) : List Text × Direction := (Scope.draftPath k.customId k.name, k.direction)

/-- A request is what an edited query asks for. -/
structure Draft.Asks (d : Draft) (q : Request) : Prop where
  filters : List.Forall₂ (fun f c => f.condition? = some c) d.filters q.conditions
  sortBy : q.sortBy = d.sortBy.map DraftSort.key

theorem Draft.Asks.unique {d : Draft} {q q' : Request} (asks : d.Asks q) (asks' : d.Asks q') : q = q' := by
  obtain ⟨conditions, sortBy⟩ := q
  obtain ⟨conditions', sortBy'⟩ := q'
  have same : conditions = conditions' :=
    List.right_unique_forall₂' (fun _ _ _ first second => Option.some.inj (first.symm.trans second))
      asks.filters asks'.filters
  have sortBy : sortBy = sortBy' := asks.sortBy.trans asks'.sortBy.symm
  rw [same, sortBy]

namespace Predicate

/-- The predicate of comparisons that all have to hold: nothing, a single comparison, or one
conjunction. -/
def ofComparisons? : List Comparison → Option Predicate
  | [] => none
  | [c] => some (.compare c)
  | cs => some (.and (cs.map .compare))

theorem conjuncts_of_ofComparisons? {cs : List Comparison} {p : Predicate} (all : ofComparisons? cs = some p) :
    p.conjuncts = cs.map .compare := by
  unfold ofComparisons? at all
  split at all <;> cases all <;> rfl

theorem ofComparisons?_append {cs ds : List Comparison} {p q : Predicate} (left : ofComparisons? cs = some p)
    (right : ofComparisons? ds = some q) : ofComparisons? (cs ++ ds) = some (p.conj q) := by
  rw [conj, conjuncts_of_ofComparisons? left, conjuncts_of_ofComparisons? right, ← List.map_append]
  cases cs with
  | nil => cases left
  | cons c cs =>
    cases ds with
    | nil => cases right
    | cons d ds => cases cs <;> rfl

end Predicate

theorem Formula.leaves_of_conjuncts? {α : Type} {f : Formula α} {cs : List α} (conjuncts : f.conjuncts? = some cs) :
    f.leaves = cs := by
  induction f generalizing cs with
  | leaf a =>
    cases conjuncts
    rfl
  | and l r left right =>
    obtain ⟨ls, atLeft, conjuncts⟩ := Option.bind_eq_some_iff.mp conjuncts
    obtain ⟨rs, atRight, eq⟩ := Option.bind_eq_some_iff.mp conjuncts
    cases eq
    rw [leaves, left atLeft, right atRight]
  | or | not => cases conjuncts

/-- A formula without `or` and `not` is a conjunction of its leaves. -/
theorem Formula.conjuncts?_of_only_and {α : Type} {f : Formula α} (noOr : f.containsOr = false)
    (noNot : f.containsNot = false) : f.conjuncts? = some f.leaves := by
  induction f with
  | leaf a => rfl
  | and l r left right =>
    simp only [containsOr, containsNot, Bool.or_eq_false_iff] at noOr noNot
    rw [conjuncts?, left noOr.1 noNot.1, right noOr.2 noNot.2]
    rfl
  | or => cases noOr
  | not => cases noNot

namespace Scope

variable {s : Scope} {settings : Settings}

theorem compileClause_eq (s : Scope) (c : Clause) :
    s.compileClause c = Condition.ofText? c.start c.text >>= s.compileCondition := by
  rw [compileClause]
  cases Condition.ofText? c.start c.text with
  | error => rfl
  | ok condition => cases condition <;> rfl

/-- The filter that a clause of a query stands for. -/
def filterOf (s : Scope) (c : Clause) : Except QueryError Filter := Condition.ofText? c.start c.text >>= s.expand

theorem compileClause_eq_filterOf (s : Scope) (c : Clause) : s.compileClause c = s.filterOf c >>= s.compileFilter := by
  rw [compileClause_eq, filterOf]
  cases Condition.ofText? c.start c.text with
  | error => rfl
  | ok condition => exact s.compileCondition_eq condition

/-- A conjunction compiles to the comparisons of its leaves, side by side. -/
theorem compile_conjunction {f : Formula Clause} {cs : List Clause} (conjuncts : f.conjuncts? = some cs) :
    (s.compile false f).map some = (cs.mapM s.compileClause).map Predicate.ofComparisons? := by
  induction f generalizing cs with
  | leaf c =>
    cases conjuncts
    rw [compile, List.mapM_cons, List.mapM_nil]
    cases s.compileClause c <;> rfl
  | and l r left right =>
    obtain ⟨ls, atLeft, conjuncts⟩ := Option.bind_eq_some_iff.mp conjuncts
    obtain ⟨rs, atRight, eq⟩ := Option.bind_eq_some_iff.mp conjuncts
    cases eq
    rw [compile, List.mapM_append]
    refine both_map_congr (left atLeft) (right atRight) fun p q cs ds first second => ?_
    exact (Predicate.ofComparisons?_append first.symm second.symm).symm
  | or | not => cases conjuncts

/-- The search that a request asks for. -/
def searchRequest (s : Scope) (settings : Settings) (q : Request) : Except QueryError Search := do
  let comparisons ← q.conditions.mapM s.compileCondition
  let keys ← q.sortBy.mapM fun key => s.sortKey key.1 key.2
  return ⟨Predicate.ofComparisons? comparisons,
    if keys.isEmpty then [s.schema.defaultSortKey settings] else keys⟩

/-- The report on a request. -/
def reportRequest (s : Scope) (settings : Settings) (q : Request) : Except QueryError Report := do
  let filters ← q.conditions.mapM s.conditionClause
  let sorts ← q.sortBy.mapM fun key => s.sortClause key.1 key.2
  return s.report settings filters sorts

theorem searchRequest_eq_ok_iff {q : Request} {found : Search} :
    s.searchRequest settings q = .ok found ↔ ∃ comparisons keys,
      List.Forall₂ (fun c comparison => s.compileCondition c = .ok comparison) q.conditions comparisons ∧
      List.Forall₂ (fun key sortKey => s.sortKey key.1 key.2 = .ok sortKey) q.sortBy keys ∧
      ⟨Predicate.ofComparisons? comparisons, if keys.isEmpty then [s.schema.defaultSortKey settings] else keys⟩ =
        found := by
  rw [searchRequest, both_eq_ok_iff]
  simp only [mapM_eq_ok_iff]

theorem reportRequest_eq_ok_iff {q : Request} {r : Report} :
    s.reportRequest settings q = .ok r ↔ ∃ filters sorts,
      List.Forall₂ (fun c clause => s.conditionClause c = .ok clause) q.conditions filters ∧
      List.Forall₂ (fun key clause => s.sortClause key.1 key.2 = .ok clause) q.sortBy sorts ∧
      s.report settings filters sorts = r := by
  rw [reportRequest, both_eq_ok_iff]
  simp only [mapM_eq_ok_iff]

theorem conjuncts_of_conjunction {f : Option (Formula Clause)} {cs : List Clause} (conjuncts : conjunction f = .ok cs) :
    f.elim (some []) Formula.conjuncts? = some cs := by
  unfold conjunction at conjuncts
  split at conjuncts
  · cases conjuncts
    rfl
  · split at conjuncts
    · cases conjuncts
    · split at conjuncts
      · rename_i eq
        cases conjuncts
        exact eq
      · cases conjuncts

theorem compileQuery_eq {query : Text} {maxDepth : Nat} {f : Option (Formula Clause)} {cs : List Clause}
    (read : Formula.ofText? .search maxDepth query = .ok f) (conjuncts : conjunction f = .ok cs) :
    s.compileQuery .search maxDepth query = (cs.mapM s.compileClause).map Predicate.ofComparisons? := by
  have parts := conjuncts_of_conjunction conjuncts
  rw [compileQuery, read]
  cases f with
  | none =>
    cases parts
    rfl
  | some f => exact compile_conjunction parts

theorem search_eq (s : Scope) (settings : Settings) (t : Text) :
    s.search settings t = (do
      let predicate ← s.compileQuery .search settings.maxDepth (Search.split t).1
      let sort ← (Search.split t).2.elim (.ok []) s.parseSort
      return ⟨predicate, if sort.isEmpty then [s.schema.defaultSortKey settings] else sort⟩) := by
  rw [search]
  cases Search.split t with
  | mk filter clause => cases clause <;> rfl

theorem textFilterClauses_eq (s : Scope) (cs : List Clause) :
    s.textFilterClauses cs = cs.mapM fun c => Condition.ofText? c.start c.text >>= s.conditionClause := by
  induction cs with
  | nil => rfl
  | cons c cs ih =>
    rw [textFilterClauses, List.mapM_cons, ih]
    cases Condition.ofText? c.start c.text with
    | error => rfl
    | ok condition => cases condition <;> rfl

theorem reportText_eq (s : Scope) (settings : Settings) (t : Text) :
    s.reportText settings t = (do
      let f ← Formula.ofText? .search settings.maxDepth (Search.split t).1
      let filters ← s.textFilterClauses (← conjunction f)
      let sorts ← (Search.split t).2.elim (.ok []) (readSortClause s.sortClause)
      return s.report settings filters sorts) := by
  rw [reportText]
  cases Search.split t with
  | mk filter clause => cases clause <;> rfl

/-- A text that reads as a request is searched for as that request. -/
theorem search_of_read {t : Text} {q : Request} (read : Request.ofText? settings.maxDepth t = .ok q) :
    s.search settings t = s.searchRequest settings q := by
  obtain ⟨f, cs, atFilter, conjuncts, atClauses, atSort⟩ := Request.ofText?_eq_ok_iff.mp read
  have clauses : cs.mapM s.compileClause = q.conditions.mapM s.compileCondition := by
    rw [← mapM_bind_of_ok atClauses]
    exact congrArg cs.mapM (funext s.compileClause_eq)
  rw [search_eq, compileQuery_eq atFilter conjuncts, clauses, show s.parseSort = readSortClause s.sortKey from rfl,
    elim_readSortClause s.sortKey atSort, searchRequest]
  cases q.conditions.mapM s.compileCondition <;> rfl

/-- A text that reads as a request is reported as that request. -/
theorem reportText_of_read {t : Text} {q : Request} (read : Request.ofText? settings.maxDepth t = .ok q) :
    s.reportText settings t = s.reportRequest settings q := by
  obtain ⟨f, cs, atFilter, conjuncts, atClauses, atSort⟩ := Request.ofText?_eq_ok_iff.mp read
  rw [reportText_eq, atFilter, ok_bind, conjuncts, ok_bind, textFilterClauses_eq, mapM_bind_of_ok atClauses,
    elim_readSortClause s.sortClause atSort, reportRequest]

/-- Only a text that reads as a request is reported. -/
theorem exists_request_of_reportText {t : Text} {r : Report} (reported : s.reportText settings t = .ok r) :
    ∃ q, Request.ofText? settings.maxDepth t = .ok q ∧ s.reportRequest settings q = .ok r := by
  suffices read : ∃ q, Request.ofText? settings.maxDepth t = .ok q by
    obtain ⟨q, read⟩ := read
    exact ⟨q, read, (reportText_of_read read).symm.trans reported⟩
  rw [reportText_eq] at reported
  obtain ⟨f, atFilter, reported⟩ := bind_eq_ok_iff.mp reported
  obtain ⟨cs, conjuncts, reported⟩ := bind_eq_ok_iff.mp reported
  obtain ⟨filters, atClauses, reported⟩ := bind_eq_ok_iff.mp reported
  obtain ⟨sorts, atSort, _⟩ := bind_eq_ok_iff.mp reported
  rw [textFilterClauses_eq] at atClauses
  obtain ⟨conditions, atConditions, _⟩ := exists_of_mapM_bind atClauses
  obtain ⟨keys, atKeys⟩ := exists_paths atSort
  exact ⟨⟨conditions, keys⟩, Request.ofText?_eq_ok_iff.mpr ⟨f, cs, atFilter, conjuncts, atConditions, atKeys⟩⟩

/-- A text without `or` and `not` that is searched for reads as a request. -/
theorem exists_request_of_search {t : Text} {found : Search} (searched : s.search settings t = .ok found)
    (plain : ∀ f, Formula.ofText? .search settings.maxDepth (Search.split t).1 = .ok (some f) →
      f.containsNot = false) :
    ∃ q, Request.ofText? settings.maxDepth t = .ok q ∧ s.searchRequest settings q = .ok found := by
  suffices read : ∃ q, Request.ofText? settings.maxDepth t = .ok q by
    obtain ⟨q, read⟩ := read
    exact ⟨q, read, (search_of_read read).symm.trans searched⟩
  rw [search_eq] at searched
  obtain ⟨predicate, compiled, searched⟩ := bind_eq_ok_iff.mp searched
  obtain ⟨sort, atSort, _⟩ := bind_eq_ok_iff.mp searched
  obtain ⟨keys, atKeys⟩ := exists_paths atSort
  obtain ⟨f, atFilter, compiled⟩ := bind_eq_ok_iff.mp compiled
  suffices parts : ∃ cs conditions, conjunction f = .ok cs ∧
      cs.mapM (fun c => Condition.ofText? c.start c.text) = .ok conditions by
    obtain ⟨cs, conditions, conjuncts, atConditions⟩ := parts
    exact ⟨⟨conditions, keys⟩, Request.ofText?_eq_ok_iff.mpr ⟨f, cs, atFilter, conjuncts, atConditions, atKeys⟩⟩
  cases f with
  | none => exact ⟨[], [], rfl, rfl⟩
  | some f =>
    have noNot := plain f atFilter
    have noOr := (Formula.ofText?_eq_some_iff.mp atFilter).1 rfl
    have conjuncts := Formula.conjuncts?_of_only_and noOr noNot
    obtain ⟨p, compiled, _⟩ := map_eq_ok_iff.mp compiled
    have whole := compile_conjunction (s := s) conjuncts
    rw [compiled] at whole
    obtain ⟨comparisons, atClauses, _⟩ := map_eq_ok_iff.mp whole.symm
    rw [funext s.compileClause_eq] at atClauses
    obtain ⟨conditions, atConditions, _⟩ := exists_of_mapM_bind atClauses
    refine ⟨f.leaves, conditions, ?_, atConditions⟩
    simp [conjunction, noNot, conjuncts]

theorem draftFilterClauses_eq (s : Scope) (fs : List DraftFilter) :
    s.draftFilterClauses fs = fs.mapM s.draftFilterClause := by
  induction fs with
  | nil => rfl
  | cons f fs ih => rw [draftFilterClauses, List.mapM_cons, ih]

theorem draftSortClauses_eq (s : Scope) (ks : List DraftSort) :
    s.draftSortClauses ks = (ks.map DraftSort.key).mapM fun key => s.sortClause key.1 key.2 := by
  induction ks with
  | nil => rfl
  | cons k ks ih =>
    rw [draftSortClauses, List.map_cons, List.mapM_cons, ih]
    rfl

/-- An edited filter is written as the condition that it stands for. An id has to be that of a custom
field. -/
theorem draftFilterClause_of_hashtag {f : DraftFilter} {name : Text} (hashtag : f.name = '#' :: name)
    (noId : f.customId = none) : s.draftFilterClause f = s.hashtagClause name := by
  rw [draftFilterClause, hashtag, noId]
  rfl

theorem draftFilterClause_of_field {f : DraftFilter} (field : ¬ f.IsHashtag) :
    s.draftFilterClause f = s.draftFieldClause f := by
  unfold draftFilterClause
  split
  · rename_i name hashtag noId
    exact absurd ⟨name, hashtag, noId⟩ field
  · rfl

theorem draftFilterClause_of_condition? {f : DraftFilter} {c : Condition} (stands : f.condition? = some c)
    (known : ∀ id, f.customId = some id → (s.schema.customField? id).isSome = true) :
    s.draftFilterClause f = s.conditionClause c := by
  by_cases kind : f.IsHashtag
  · obtain ⟨name, hashtag, noId⟩ := kind
    rw [DraftFilter.condition?_of_hashtag hashtag noId] at stands
    cases stands
    exact draftFilterClause_of_hashtag hashtag noId
  · rw [DraftFilter.condition?_of_field kind] at stands
    obtain ⟨v, value, rfl⟩ := Option.map_eq_some_iff.mp stands
    rw [draftFilterClause_of_field kind, draftFieldClause, value]
    cases custom : f.customId with
    | none => rfl
    | some id =>
      have found := known id custom
      simp only [Option.isNone_eq_false_iff.mpr found]
      rfl

theorem exists_filter_of_draftFieldClause {f : DraftFilter} {clause : FilterClause}
    (written : s.draftFieldClause f = .ok clause) :
    ∃ value, f.value = some value ∧
      s.filterClause ⟨draftPath f.customId f.name, f.operator, value⟩ = .ok clause := by
  unfold draftFieldClause at written
  cases value : f.value with
  | none =>
    simp only [value] at written
    split at written
    · split at written <;> cases written
    · cases written
  | some v =>
    refine ⟨v, rfl, ?_⟩
    simp only [value] at written
    split at written
    · split at written
      · cases written
      · exact written
    · exact written

theorem exists_condition_of_draftFilterClause {f : DraftFilter} {clause : FilterClause}
    (written : s.draftFilterClause f = .ok clause) :
    ∃ c, f.condition? = some c ∧ s.conditionClause c = .ok clause := by
  by_cases kind : f.IsHashtag
  · obtain ⟨name, hashtag, noId⟩ := kind
    rw [draftFilterClause_of_hashtag hashtag noId] at written
    exact ⟨.hashtag name, DraftFilter.condition?_of_hashtag hashtag noId, written⟩
  · rw [draftFilterClause_of_field kind] at written
    obtain ⟨v, value, filter⟩ := exists_filter_of_draftFieldClause written
    rw [DraftFilter.condition?_of_field kind, value]
    exact ⟨_, rfl, filter⟩

/-- Only an edited query that asks for a request is reported, and as that request. -/
theorem exists_request_of_reportDraft {d : Draft} {r : Report} (reported : s.reportDraft settings d = .ok r) :
    ∃ q, d.Asks q ∧ s.reportRequest settings q = .ok r := by
  obtain ⟨filters, atFilters, reported⟩ := bind_eq_ok_iff.mp reported
  obtain ⟨sorts, atSorts, eq⟩ := bind_eq_ok_iff.mp reported
  rw [draftFilterClauses_eq, mapM_eq_ok_iff] at atFilters
  rw [draftSortClauses_eq] at atSorts
  obtain ⟨conditions, stand, written⟩ :=
    forall₂_exists_iff.mp (atFilters.imp fun _ _ => exists_condition_of_draftFilterClause)
  refine ⟨⟨conditions, d.sortBy.map DraftSort.key⟩, ⟨stand, rfl⟩, ?_⟩
  rw [reportRequest, mapM_eq_ok_iff.mpr written, ok_bind, atSorts]
  exact eq

end Scope

end IssueQuery
