import IssueQuery.Proofs.RoundTrip

namespace IssueQuery

/-- A reported filter as it is sent back to be edited. -/
def ReportedFilter.draft : ReportedFilter → DraftFilter
  | .field name operator value _ customId => ⟨name, operator, some value, customId⟩
  | .hashtag name => ⟨'#' :: name, none, none, none⟩

/-- A reported sort key as it is sent back to be edited. -/
def ReportedSort.draft (k : ReportedSort) : DraftSort := ⟨k.name, k.direction, k.customId⟩

/-- A report as it is sent back to be edited. -/
def Report.draft (r : Report) : Draft := ⟨r.filters.map ReportedFilter.draft, r.sortBy.map ReportedSort.draft⟩

/-- Whether the id of a target, or else its name, stands for the target. An id stands for a whole custom
field; the name of a whole reserved field has to be read as one segment. -/
structure Target.Returns (t : Target) : Prop where
  custom : t.field.isCustom = true → t.name = t.field.name
  reserved : t.field.isCustom = false → t.name = t.field.name → Filter.namePath t.name = [t.name]

namespace Schema

variable {s : Schema}

theorem isSome_customField? {i : Nat} {f : FieldDef} {id : Text} (declared : s.fields[i]? = some f)
    (custom : f.customId = some id) : (s.customField? id).isSome = true := by
  rw [customField?, findField?, Option.isSome_map, List.find?_isSome]
  exact ⟨(f, i), List.mk_mem_zipIdx_iff_getElem?.mpr declared, by simp [custom]⟩

/-- What is reported about a target leads back to it. -/
theorem Addressable.resolve?_draftPath (addressable : s.Addressable) {path : List Text} {target : Target} {t : Text}
    (resolved : s.resolve? path = some target) (rendered : Filter.renderField target.field path.tail = .ok t)
    (returns : target.Returns) :
    s.resolve? (Scope.draftPath target.field.customId target.name) = some target ∧
      (Scope.draftPath target.field.customId target.name).tail = path.tail := by
  obtain ⟨name, _⟩ := target_of_resolve? resolved
  obtain ⟨root, rest, rfl, found⟩ := resolve?_eq_some resolved
  obtain ⟨_, byName, byId⟩ := addressable _ _ (getElem?_of_lookup? found)
  rw [List.tail_cons] at name rendered ⊢
  cases custom : target.field.customId with
  | some id =>
    have isCustom : target.field.isCustom = true := by rw [FieldDef.isCustom, custom]; rfl
    have whole : rest = [] := Filter.eq_nil_of_pathText_eq (name.symm.trans (returns.custom isCustom))
    refine ⟨?_, whole.symm⟩
    rw [← resolved, whole]
    exact resolve?_congr ((byId id custom).trans found.symm) []
  | none =>
    have isReserved : target.field.isCustom = false := by rw [FieldDef.isCustom, custom]; rfl
    have path : Filter.namePath target.name = target.field.name :: rest := by
      by_cases whole : rest = []
      · rw [whole, Filter.pathText_singleton] at name
        rw [returns.reserved isReserved name, name, whole]
      · have plain : Filter.readsAs target.name (target.field.name :: rest) = true := by
          unfold Filter.renderField at rendered
          dsimp only at rendered
          split at rendered
          · rename_i plain
            rw [Bool.and_eq_true] at plain
            rw [name]
            exact plain.2
          · rw [if_neg fun both => whole both.1, custom] at rendered
            cases rendered
        unfold Filter.readsAs at plain
        split at plain
        · rename_i read
          rw [Filter.namePath, read]
          exact eq_of_beq plain
        · cases plain
    rw [Scope.draftPath, path]
    exact ⟨(resolve?_congr (byName.trans found.symm) rest).trans resolved, rfl⟩

end Schema

namespace Scope

variable {s : Scope} {settings : Settings}

/-- A filter that is sent back is written as it was. -/
theorem draftFilterClause_draft (addressable : s.schema.Addressable) {c : Condition} {clause : FilterClause}
    (written : s.conditionClause c = .ok clause)
    (returns : ∀ f target, c = .field f → s.schema.resolve? f.path = some target →
      target.Returns ∧ (target.field.isCustom = false → ∀ name, target.name ≠ '#' :: name)) :
    s.draftFilterClause clause.filter.draft = .ok clause := by
  have whole := written
  cases writes_of_conditionClause written with
  | hashtag found =>
    rw [← whole, conditionClause, hashtagClause, ← expandHashtag_name found]
    rfl
  | @field f target _ _ _ _ resolved rendered nonempty =>
    obtain ⟨leads, allowed⟩ := resolve_eq_ok_iff.mp resolved
    obtain ⟨stands, noHashtag⟩ := returns f target rfl leads
    obtain ⟨leadsBack, rest⟩ := addressable.resolve?_draftPath leads rendered stands
    have again : s.resolve (draftPath target.field.customId target.name) = s.resolve f.path := by
      rw [resolved]
      exact resolve_eq_ok_iff.mpr ⟨leadsBack, allowed⟩
    have known : ∀ id, target.field.customId = some id → (s.schema.customField? id).isSome = true := by
      obtain ⟨_, _, _, found⟩ := Schema.resolve?_eq_some leads
      exact fun id => Schema.isSome_customField? (Schema.getElem?_of_lookup? found)
    have same := filterClause_congr (g := ⟨draftPath target.field.customId target.name, f.operator,
      f.value.normalizedFor f.effectiveOperator⟩) nonempty again rest rfl (RawValue.items_normalizedFor _ _)
    rw [← whole, conditionClause, ← same]
    refine draftFilterClause_of_condition? (c := .field _) ((DraftFilter.condition?_of_field ?_).trans rfl) known
    rintro ⟨name, hashtag, reserved⟩
    have noId : target.field.customId = none := reserved
    exact noHashtag (by rw [FieldDef.isCustom, noId]; rfl) name hashtag

/-- A sort key that is sent back is written as it was. -/
theorem sortClause_draft (addressable : s.schema.Addressable) {path : List Text} {direction : Direction}
    {target : Target} {t : Text} (resolved : s.resolveSort path = .ok target)
    (rendered : Filter.renderField target.field path.tail = .ok t) (returns : target.Returns) :
    s.sortClause (target.reportedSort direction).draft.key.1 (target.reportedSort direction).draft.key.2 =
      s.sortClause path direction := by
  obtain ⟨leads, allowed⟩ := resolveSort_eq_ok_iff.mp resolved
  obtain ⟨leadsBack, rest⟩ := addressable.resolve?_draftPath leads rendered returns
  have again : s.resolveSort (draftPath target.field.customId target.name) = s.resolveSort path := by
    rw [resolved]
    exact resolveSort_eq_ok_iff.mpr ⟨leadsBack, allowed⟩
  show s.sortClause (draftPath target.field.customId target.name) direction = _
  rw [sortClause, sortClause, again, rest]

/-- The sort keys of a request, or the default sort if it has none. -/
def sortKeys (settings : Settings) (q : Request) : List (List Text × Direction) :=
  if q.sortBy = [] then [(Filter.namePath settings.defaultSortField, settings.defaultSortDirection)] else q.sortBy

/-- Whether what is reported about a request stands for the request. A name that starts like a hashtag
does not stand for a reserved field that is filtered on, and the default sort has to be a field that the
author of the query may use and can write. -/
structure Returns (s : Scope) (settings : Settings) (q : Request) : Prop where
  conditions : ∀ f target, .field f ∈ q.conditions → s.schema.resolve? f.path = some target →
    target.Returns ∧ (target.field.isCustom = false → ∀ name, target.name ≠ '#' :: name)
  sortBy : ∀ key ∈ sortKeys settings q, ∃ target t, s.resolveSort key.1 = .ok target ∧
    Filter.renderField target.field key.1.tail = .ok t ∧ target.Returns

/-- The sort keys that are sent back are written as they were, or as the default sort. -/
theorem draftSortClauses_draft (addressable : s.schema.Addressable) {q : Request} (returns : s.Returns settings q)
    {sorts : List SortClause}
    (written : List.Forall₂ (fun key clause => s.sortClause key.1 key.2 = .ok clause) q.sortBy sorts)
    (filters : List FilterClause) :
    ∃ sorts', s.draftSortClauses ((s.report settings filters sorts).sortBy.map ReportedSort.draft) = .ok sorts' ∧
      s.report settings filters sorts' = s.report settings filters sorts := by
  by_cases none : q.sortBy = []
  · rw [none] at written
    cases written
    obtain ⟨target, t, resolved, rendered, stands⟩ :=
      returns.sortBy (Filter.namePath settings.defaultSortField, settings.defaultSortDirection) (by simp [sortKeys, none])
    have default : s.defaultSort settings = target.reportedSort settings.defaultSortDirection := by
      rw [defaultSort, (resolveSort_eq_ok_iff.mp resolved).1]
    let clause : SortClause :=
      ⟨target.reportedSort settings.defaultSortDirection, settings.defaultSortDirection.mark ++ t⟩
    have made : s.sortClause (Filter.namePath settings.defaultSortField) settings.defaultSortDirection = .ok clause := by
      rw [sortClause, resolved, ok_bind, rendered]
      rfl
    have back := (sortClause_draft addressable resolved rendered stands).trans made
    refine ⟨[clause], ?_, ?_⟩
    · rw [draftSortClauses_eq]
      show [(s.defaultSort settings).draft.key].mapM (fun key => s.sortClause key.1 key.2) = _
      rw [default, List.mapM_cons, back]
      rfl
    · refine (isDefaultSort_report ?_ ?_).symm
      · simp [isDefaultSort, clause, default]
      · intro only eq _ _
        rw [default]
        exact (List.cons.inj eq).1.symm
  · refine ⟨sorts, ?_, rfl⟩
    have sortBy : (s.report settings filters sorts).sortBy = sorts.map SortClause.sort := by
      cases sorts with
      | nil => exact absurd (List.forall₂_nil_right_iff.mp written) none
      | cons => rfl
    rw [sortBy, draftSortClauses_eq, mapM_eq_ok_iff, List.map_map, List.map_map, List.forall₂_map_left_iff,
      List.forall₂_same]
    intro clause member
    obtain ⟨key, inSort, made⟩ := exists_of_mem_forall₂ written member
    obtain ⟨target, t, resolved, rendered, stands⟩ := returns.sortBy key (by rwa [sortKeys, if_neg none])
    have sort : clause.sort = target.reportedSort key.2 := by
      rw [sortClause, resolved, ok_bind, rendered] at made
      cases made
      rfl
    show s.sortClause clause.sort.draft.key.1 clause.sort.draft.key.2 = .ok clause
    rw [sort]
    exact (sortClause_draft addressable resolved rendered stands).trans made

/-- A report that is sent back to be edited is reported as it was. This takes a schema whose fields can be
addressed, and what is reported about the request has to stand for it. -/
theorem reportDraft_draft {q : Request} {r : Report} (addressable : s.schema.Addressable)
    (reported : (∃ d, d.Asks q ∧ s.reportDraft settings d = .ok r) ∨
      ∃ t, Request.ofText? settings.maxDepth t = .ok q ∧ s.reportText settings t = .ok r)
    (returns : s.Returns settings q) : s.reportDraft settings r.draft = .ok r := by
  have asked : s.reportRequest settings q = .ok r := by
    rcases reported with ⟨d, asks, reported⟩ | ⟨t, read, reported⟩
    · obtain ⟨q', asks', reported⟩ := exists_request_of_reportDraft reported
      rwa [asks.unique asks']
    · rwa [← reportText_of_read read]
  obtain ⟨filters, sorts, atFilters, atSorts, rfl⟩ := reportRequest_eq_ok_iff.mp asked
  have filtersBack : s.draftFilterClauses ((filters.map FilterClause.filter).map ReportedFilter.draft) = .ok filters := by
    rw [draftFilterClauses_eq, mapM_eq_ok_iff, List.map_map, List.forall₂_map_left_iff, List.forall₂_same]
    intro clause member
    obtain ⟨c, inConditions, written⟩ := exists_of_mem_forall₂ atFilters member
    refine draftFilterClause_draft addressable written ?_
    rintro f target rfl
    exact returns.conditions f target inConditions
  obtain ⟨sorts', sortsBack, same⟩ := draftSortClauses_draft addressable returns atSorts filters
  have whole : s.reportDraft settings (s.report settings filters sorts).draft =
      .ok (s.report settings filters sorts') := by
    show (do
      let filters ← s.draftFilterClauses ((filters.map FilterClause.filter).map ReportedFilter.draft)
      let sorts ← s.draftSortClauses ((s.report settings filters sorts).sortBy.map ReportedSort.draft)
      return s.report settings filters sorts) = _
    rw [filtersBack, ok_bind, sortsBack]
    rfl
  rw [whole, same]

set_option maxRecDepth 4000 in
/-- A list, a hashtag in another case and a custom field by its id, sorted by default. -/
theorem reportDraft_draft_sample :
    let settings : Settings := { defaultSortField := "votes".toList }
    let d : Draft :=
      { filters := [⟨"labels".toList, some .isIn, some (.scalar "or".toList), none⟩,
          ⟨"#Popular".toList, none, none, none⟩,
          ⟨[], some .gte, some (.list ["2024-05-01".toList]), some "G7".toList⟩]
        sortBy := [] }
    let q : Request :=
      { conditions := [.field ⟨["labels".toList], some .isIn, .scalar "or".toList⟩, .hashtag "Popular".toList,
          .field ⟨["G7".toList], some .gte, .list ["2024-05-01".toList]⟩]
        sortBy := [] }
    let r : Report :=
      { query := "labels___in: \"or\" and #popular and \"Due Date\"___gte: 2024-05-01".toList
        filters := [.field "labels".toList (some .isIn) (.list ["or".toList]) "list<string>".toList none,
          .hashtag "popular".toList,
          .field "Due Date".toList (some .gte) (.scalar "2024-05-01".toList) "datetime".toList (some "G7".toList)]
        sortBy := [⟨"votes".toList, .desc, some "int".toList, none⟩]
        availableFields := [] }
    d.Asks q ∧ sample.reportDraft settings d = .ok r ∧ sample.Returns settings q ∧
      sample.reportDraft settings r.draft = .ok r := by
  intro settings d q r
  have asks : d.Asks q := ⟨.cons rfl (.cons rfl (.cons rfl .nil)), rfl⟩
  have reported : sample.reportDraft settings d = .ok r := by rfl
  have returns : sample.Returns settings q := by
    constructor
    · intro f target member leads
      simp only [q, List.mem_cons, Condition.field.injEq, reduceCtorEq, List.not_mem_nil, or_false, false_or] at member
      rcases member with rfl | rfl
      · cases leads
        exact ⟨⟨fun custom => absurd custom (by decide), fun _ _ => rfl⟩,
          fun _ name => by simp [Filter.pathText, Text.join]⟩
      · cases leads
        exact ⟨⟨fun _ => rfl, fun reserved => absurd reserved (by decide)⟩,
          fun reserved => absurd reserved (by decide)⟩
    · intro key member
      cases List.mem_singleton.mp member
      exact ⟨_, _, rfl, rfl, fun custom => absurd custom (by decide), fun _ _ => rfl⟩
  exact ⟨asks, reported, returns, reportDraft_draft addressable_sample (Or.inl ⟨d, asks, reported⟩) returns⟩

/-- Fields whose reports stand for something else: a reserved field with a name that is read as a path, one
with a name that is read as a hashtag, and a custom field with a part. The default sort is none of them. -/
def misnamed : Scope :=
  { schema :=
      { fields := [⟨"due__on".toList, .datetime, none⟩, ⟨"#1".toList, .string, none⟩,
          ⟨"Meta".toList, .object [⟨"code".toList, .string, none⟩], some "G1".toList⟩] }
    permitted := none }

theorem addressable_misnamed : misnamed.schema.Addressable := by
  intro i f declared
  rcases i with _ | _ | _ | i
  · cases declared
    exact ⟨by decide, rfl, nofun⟩
  · cases declared
    exact ⟨by decide, rfl, nofun⟩
  · cases declared
    refine ⟨by decide, rfl, ?_⟩
    rintro id same
    cases same
    rfl
  · cases declared

set_option maxRecDepth 4000 in
/-- Not every report can be sent back. The id of a custom field does not stand for a part of it, a name may
be read as a path or a hashtag, and a default sort that the schema lacks cannot be asked for. -/
theorem reportDraft_draft_misnamed :
    let byMeta : List DraftSort := [⟨"Meta".toList, .asc, none⟩]
    misnamed.schema.Addressable ∧
      ∀ d ∈ ([⟨[⟨"Meta__code".toList, none, some (.scalar "x".toList), none⟩], byMeta⟩,
          ⟨[⟨"\"due__on\"".toList, none, some (.scalar "x".toList), none⟩], byMeta⟩,
          ⟨[⟨"\"#1\"".toList, none, some (.scalar "x".toList), none⟩], byMeta⟩,
          ⟨[⟨"Meta".toList, none, some (.scalar "x".toList), none⟩], []⟩] : List Draft),
        ∃ r, misnamed.reportDraft {} d = .ok r ∧ misnamed.reportDraft {} r.draft ≠ .ok r := by
  refine ⟨addressable_misnamed, ?_⟩
  intro d member
  simp only [List.mem_cons, List.not_mem_nil, or_false] at member
  rcases member with rfl | rfl | rfl | rfl
  all_goals exact ⟨_, rfl, by decide +kernel⟩

end Scope

end IssueQuery
