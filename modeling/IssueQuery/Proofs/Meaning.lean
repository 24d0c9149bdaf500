import IssueQuery.Proofs.Agreement
import IssueQuery.Proofs.RoundTrip

namespace IssueQuery

namespace Filter

/-- The segments after the first one, as they are cut from a text: none, or all segments of some text. -/
def Spelled (rest : List Text) : Prop := rest = [] ∨ ∃ t, splitPath t = rest

theorem Segments.spelled_tail {t : Text} {path : List Text} (segments : Segments t path) : Spelled path.tail := by
  cases segments with
  | last => exact Or.inl rfl
  | next _ rest => exact Or.inr ⟨_, splitPath_eq_iff.mpr rest⟩

theorem spelled_readPath {t : Text} {path : List Text} (read : readPath t = .ok path) : Spelled path.tail := by
  obtain ⟨_, _, _, _, _, form, _⟩ := readPath_eq_ok_iff.mp read
  cases form with
  | quoted => exact Or.inl rfl
  | identifier _ _ form =>
    cases form with
    | plain _ segments => exact segments.spelled_tail

theorem spelled_namePath (name : Text) : Spelled (namePath name).tail := by
  unfold namePath
  split
  · rename_i path read
    exact spelled_readPath read
  · exact Or.inl rfl

/-- Behind the same name, two spelled paths with the same written form are the same. -/
theorem rest_eq_of_pathText_eq {name : Text} {rest rest' : List Text} (spelled : Spelled rest)
    (spelled' : Spelled rest') (same : pathText (name :: rest) = pathText (name :: rest')) : rest = rest' := by
  by_cases empty : rest = []
  · by_cases empty' : rest' = []
    · rw [empty, empty']
    · rw [empty, pathText_singleton] at same
      exact absurd (eq_nil_of_pathText_eq same.symm) empty'
  · by_cases empty' : rest' = []
    · rw [empty', pathText_singleton] at same
      exact absurd (eq_nil_of_pathText_eq same) empty
    · rw [pathText_cons empty, pathText_cons empty'] at same
      have texts := List.append_cancel_left (List.append_cancel_left same)
      obtain ⟨t, rfl⟩ := spelled.resolve_left empty
      obtain ⟨u, rfl⟩ := spelled'.resolve_left empty'
      rw [(segments_splitPath t).pathText, (segments_splitPath u).pathText] at texts
      rw [texts]

end Filter

theorem spelled_of_readSortItems {position : Nat} {items : List Text} {keys : List (List Text × Direction)}
    (read : readSortItems (fun path direction => .ok (path, direction)) position items = .ok keys) :
    ∀ key ∈ keys, Filter.Spelled key.1.tail := by
  induction items generalizing position keys with
  | nil =>
    cases read
    simp
  | cons item items ih =>
    rcases readSortItems_cons_eq_ok_iff.mp read with ⟨_, more⟩ | ⟨_, path, _, rest, atPath, eq, more, rfl⟩
    · exact ih more
    · cases eq
      intro key member
      rcases List.mem_cons.mp member with rfl | member
      · exact Filter.spelled_readPath atPath
      · exact ih more key member

theorem Request.spelled_sortBy {maxDepth : Nat} {t : Text} {q : Request} (read : Request.ofText? maxDepth t = .ok q) :
    ∀ key ∈ q.sortBy, Filter.Spelled key.1.tail := by
  obtain ⟨_, _, _, _, _, atSort⟩ := Request.ofText?_eq_ok_iff.mp read
  cases clause : (Search.split t).2 with
  | none =>
    rw [clause] at atSort
    rw [← Except.ok.inj atSort]
    simp
  | some clause' =>
    rw [clause] at atSort
    exact spelled_of_readSortItems atSort

namespace Draft

theorem Asks.spelled_sortBy {d : Draft} {q : Request} (asks : d.Asks q) :
    ∀ key ∈ q.sortBy, Filter.Spelled key.1.tail := by
  rw [asks.sortBy]
  intro key member
  obtain ⟨k, _, rfl⟩ := List.mem_map.mp member
  rw [DraftSort.key]
  unfold Scope.draftPath
  split
  · exact Or.inl rfl
  · exact Filter.spelled_namePath k.name

end Draft

namespace Schema

variable {s : Schema} {settings : Settings}

/-- Whether a path that leads to the name of the default sort leads to its field and its type. -/
def AgreesWithDefault (s : Schema) (settings : Settings) (path : List Text) : Prop :=
  ∀ target, s.resolve? path = some target → target.name = (s.defaultSortKey settings).field →
    ∃ default, s.resolve? (Filter.namePath settings.defaultSortField) = some default ∧
      default.index = target.index ∧ default.type = target.type

/-- Two paths to the same name in the same field lead to the same place in documents. -/
theorem path_eq_of_name_eq {path path' : List Text} {target target' : Target}
    (resolved : s.resolve? path = some target) (resolved' : s.resolve? path' = some target')
    (spelled : Filter.Spelled path.tail) (spelled' : Filter.Spelled path'.tail)
    (index : target.index = target'.index) (name : target.name = target'.name) : target.path = target'.path := by
  obtain ⟨_, _, _, found⟩ := resolve?_eq_some resolved
  obtain ⟨_, _, _, found'⟩ := resolve?_eq_some resolved'
  have field : target.field = target'.field := by
    have here := getElem?_of_lookup? found
    rw [index, getElem?_of_lookup? found'] at here
    exact (Option.some.inj here).symm
  obtain ⟨nameEq, pathEq⟩ := target_of_resolve? resolved
  obtain ⟨nameEq', pathEq'⟩ := target_of_resolve? resolved'
  rw [nameEq, nameEq', field] at name
  rw [pathEq, pathEq', field, Filter.rest_eq_of_pathText_eq spelled spelled' name]

/-- A sort key with the name and the direction of the default sort is the default sort key. -/
theorem defaultSortKey_eq_of_agrees {path : List Text} {target : Target} (resolved : s.resolve? path = some target)
    (spelled : Filter.Spelled path.tail) (agrees : s.AgreesWithDefault settings path)
    (name : target.name = (s.defaultSortKey settings).field) :
    s.defaultSortKey settings = ⟨target.name, target.path, settings.defaultSortDirection⟩ := by
  obtain ⟨default, atDefault, index, _⟩ := agrees target resolved name
  have same : default.name = target.name := by
    rw [name, defaultSortKey, atDefault]
  have path := path_eq_of_name_eq atDefault resolved (Filter.spelled_namePath _) spelled index same
  rw [defaultSortKey, atDefault]
  simp only [same, path]

end Schema

namespace Scope

variable {s : Scope} {settings : Settings}

/-- A sort clause that is left out of a report asks for the default sort. -/
theorem sortKeys_of_isDefaultSort {keys : List (List Text × Direction)} {sorts : List SortClause}
    (written : List.Forall₂ (fun key clause => s.sortClause key.1 key.2 = .ok clause) keys sorts)
    (spelled : ∀ key ∈ keys, Filter.Spelled key.1.tail)
    (agrees : ∀ key ∈ keys, s.schema.AgreesWithDefault settings key.1)
    (default : s.isDefaultSort settings sorts = true) :
    ∃ sort, (keys.mapM fun key => s.sortKey key.1 key.2) = .ok sort ∧
      (sort = [] ∨ sort = [s.schema.defaultSortKey settings]) := by
  cases written with
  | nil => exact ⟨[], rfl, Or.inl rfl⟩
  | @cons key clause keys clauses first rest =>
    cases rest with
    | cons => cases default
    | nil =>
      obtain ⟨target, resolved, first⟩ := bind_eq_ok_iff.mp first
      obtain ⟨_, _, eq⟩ := bind_eq_ok_iff.mp first
      cases eq
      rw [isDefaultSort, Bool.and_eq_true, beq_iff_eq, beq_iff_eq] at default
      obtain ⟨field, direction⟩ := Prod.mk.inj (s.defaultSortKey_eq settings)
      have member : key ∈ [key] := List.mem_cons_self
      have whole := Schema.defaultSortKey_eq_of_agrees (resolveSort_eq_ok_iff.mp resolved).1 (spelled key member)
        (agrees key member) (default.1.trans field.symm)
      have atDirection : key.2 = settings.defaultSortDirection := by
        rw [whole] at direction
        exact default.2.trans direction.symm
      refine ⟨[⟨target.name, target.path, key.2⟩], ?_, Or.inr ?_⟩
      · rw [List.mapM_cons, sortKey, resolved]
        rfl
      · rw [whole, atDirection]

/-- The text of a report is searched for as the request that was reported. -/
theorem search_query {q : Request} {r : Report} (addressable : s.schema.Addressable)
    (reported : s.reportRequest settings q = .ok r) (spelled : ∀ key ∈ q.sortBy, Filter.Spelled key.1.tail)
    (agrees : ∀ key ∈ q.sortBy, s.schema.AgreesWithDefault settings key.1) :
    s.search settings r.query = s.searchRequest settings q := by
  obtain ⟨filters, sorts, atFilters, atSorts, rfl⟩ := reportRequest_eq_ok_iff.mp reported
  have restated : List.Forall₂ (fun c clause => ∃ c', s.compileCondition c' = s.compileCondition c ∧
      ClauseShape clause.text ∧ Condition.read clause.text = .ok c') q.conditions filters := by
    refine atFilters.imp fun c clause written => ?_
    obtain ⟨c', restates⟩ := exists_restated addressable written
    exact ⟨c', restates.comparison, restates.shape, restates.read⟩
  have restatedKeys : List.Forall₂ (fun key clause => ∃ key',
      s.sortKey key'.1 key'.2 = s.sortKey key.1 key.2 ∧ WrittenKey clause.text key') q.sortBy sorts := by
    refine atSorts.imp fun key clause written => ?_
    obtain ⟨key', restates⟩ := exists_restatedKey addressable written
    exact ⟨key', restates.sortKey, restates.written⟩
  obtain ⟨conditions, compiled, reads⟩ := forall₂_exists_iff.mp restated
  obtain ⟨keys, sorted, texts⟩ := forall₂_exists_iff.mp restatedKeys
  have read : Request.ofText? settings.maxDepth (s.queryText settings filters sorts) =
      .ok ⟨conditions, if s.isDefaultSort settings sorts then [] else keys⟩ :=
    Request.ofText?_queryText reads.flip texts.flip
  have comparisons : conditions.mapM s.compileCondition = q.conditions.mapM s.compileCondition :=
    mapM_congr_forall₂ compiled
  have sort : (keys.mapM fun key => s.sortKey key.1 key.2) = q.sortBy.mapM fun key => s.sortKey key.1 key.2 :=
    mapM_congr_forall₂ sorted
  show s.search settings (s.queryText settings filters sorts) = _
  rw [search_of_read read, searchRequest, searchRequest]
  dsimp only
  rw [comparisons]
  split
  · rename_i default
    obtain ⟨found, atKeys, leftOut⟩ := sortKeys_of_isDefaultSort atSorts spelled agrees default
    rw [atKeys]
    rcases leftOut with rfl | rfl <;> rfl
  · rw [sort]

/-- The text of a report means what was reported. If it was a text, both are searched for alike; if it
was an edited query, its text is searched for by the comparisons of its own filters and in its own order.
This takes a schema whose fields can be addressed, and a sort key with the name of the default sort has
to lead to the field and the type of the default sort. -/
theorem search_reported_query (s : Scope) (settings : Settings) (addressable : s.schema.Addressable) :
    (∀ t r, s.reportText settings t = .ok r →
      (∀ q, Request.ofText? settings.maxDepth t = .ok q →
        ∀ key ∈ q.sortBy, s.schema.AgreesWithDefault settings key.1) →
      ∃ found, s.search settings t = .ok found ∧ s.search settings r.query = .ok found) ∧
    ∀ d r, s.reportDraft settings d = .ok r →
      (∀ k ∈ d.sortBy, s.schema.AgreesWithDefault settings (draftPath k.customId k.name)) →
      ∃ comparisons keys,
        List.Forall₂ (fun f comparison => ∃ c, f.condition? = some c ∧ s.compileCondition c = .ok comparison)
          d.filters comparisons ∧
        List.Forall₂ (fun k key => s.sortKey (draftPath k.customId k.name) k.direction = .ok key) d.sortBy keys ∧
        s.search settings r.query = .ok ⟨Predicate.ofComparisons? comparisons,
          if keys.isEmpty then [s.schema.defaultSortKey settings] else keys⟩ := by
  constructor
  · intro t r reported agrees
    obtain ⟨q, read, reported⟩ := exists_request_of_reportText reported
    obtain ⟨comparisons, keys, _, _, searched, _⟩ := searchRequest_of_reportRequest reported
    refine ⟨_, (search_of_read read).trans searched, ?_⟩
    rw [search_query addressable reported (Request.spelled_sortBy read) (agrees q read), searched]
  · intro d r reported agrees
    obtain ⟨q, asks, reported⟩ := exists_request_of_reportDraft reported
    have agreesKeys : ∀ key ∈ q.sortBy, s.schema.AgreesWithDefault settings key.1 := by
      rw [asks.sortBy]
      intro key member
      obtain ⟨k, inSort, rfl⟩ := List.mem_map.mp member
      exact agrees k inSort
    obtain ⟨_, _, _, _, searched, _⟩ := searchRequest_of_reportRequest reported
    have whole := search_query addressable reported asks.spelled_sortBy agreesKeys
    obtain ⟨comparisons, keys, compiled, sorted, eq⟩ := searchRequest_eq_ok_iff.mp searched
    rw [asks.sortBy, List.forall₂_map_left_iff] at sorted
    exact ⟨comparisons, keys, forall₂_exists_iff.mpr ⟨q.conditions, asks.filters, compiled⟩, sorted,
      whole.trans (searched.trans (congrArg Except.ok eq.symm))⟩

set_option maxRecDepth 4000 in
/-- A hashtag in another case, and an edited query whose only sort key is the default sort, by its id. -/
theorem search_reported_query_sample :
    let settings : Settings := { defaultSortField := "due date".toList }
    let t : Text := "#POPULAR".toList
    let d : Draft :=
      { filters := [⟨"labels".toList, some .isIn, some (.list ["or".toList]), none⟩]
        sortBy := [⟨[], .desc, some "G7".toList⟩] }
    let byDueDate : ReportedSort := ⟨"Due Date".toList, .desc, some "datetime".toList, some "G7".toList⟩
    let r : Report :=
      { query := "#popular".toList
        filters := [.hashtag "popular".toList]
        sortBy := [byDueDate]
        availableFields := [⟨"labels".toList, "list<string>".toList, none⟩,
          ⟨"Due Date".toList, "datetime".toList, some "G7".toList⟩] }
    let r' : Report :=
      { query := "labels___in: \"or\"".toList
        filters := [.field "labels".toList (some .isIn) (.list ["or".toList]) "list<string>".toList none]
        sortBy := [byDueDate]
        availableFields := [⟨"votes".toList, "int".toList, none⟩,
          ⟨"Due Date".toList, "datetime".toList, some "G7".toList⟩] }
    (sample.reportText settings t = .ok r ∧
      ∃ found, sample.search settings t = .ok found ∧ sample.search settings r.query = .ok found) ∧
    sample.reportDraft settings d = .ok r' ∧ ∃ comparisons keys,
      List.Forall₂ (fun f comparison => ∃ c, f.condition? = some c ∧ sample.compileCondition c = .ok comparison)
        d.filters comparisons ∧
      List.Forall₂ (fun k key => sample.sortKey (draftPath k.customId k.name) k.direction = .ok key) d.sortBy keys ∧
      sample.search settings r'.query = .ok ⟨Predicate.ofComparisons? comparisons,
        if keys.isEmpty then [sample.schema.defaultSortKey settings] else keys⟩ := by
  intro settings t d byDueDate r r'
  have split : Search.split t = (t, none) := by decide +kernel
  have atFilter : Formula.ofText? .search settings.maxDepth t = .ok (some (.leaf ⟨"#POPULAR".toList, 0, 7⟩)) := by rfl
  have hashtag : Condition.read "#POPULAR".toList = .ok (.hashtag "POPULAR".toList) := by cbv
  have conjuncts : conjunction (some (.leaf ⟨"#POPULAR".toList, 0, 7⟩)) = .ok [⟨"#POPULAR".toList, 0, 7⟩] := by rfl
  have read : Request.ofText? settings.maxDepth t = .ok ⟨[.hashtag "POPULAR".toList], []⟩ :=
    Request.ofText?_of_parts split atFilter conjuncts (.cons hashtag .nil) rfl
  have reported : sample.reportText settings t = .ok r := by
    rw [reportText_of_read read]
    rfl
  have reported' : sample.reportDraft settings d = .ok r' := by rfl
  have meaning := search_reported_query sample settings addressable_sample
  refine ⟨⟨reported, meaning.1 t r reported ?_⟩, reported', meaning.2 d r' reported' ?_⟩
  · intro q again
    rw [read] at again
    cases again
    simp
  · intro k member
    cases List.mem_singleton.mp member
    intro target resolved _
    exact ⟨target, resolved, rfl, rfl⟩

end Scope

end IssueQuery
