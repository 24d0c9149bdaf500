import IssueQuery.Proofs.Negation
import IssueQuery.Proofs.RequestText
import IssueQuery.Proofs.Stability

namespace IssueQuery.Scope

variable {s : Scope} {settings : Settings}

theorem isDefaultSort_report {filters : List FilterClause} {sorts : List SortClause}
    (default : s.isDefaultSort settings sorts = true)
    (plain : ∀ only, (s.report settings filters sorts).sortBy = [only] →
      only.name = (s.defaultSort settings).name → only.direction = (s.defaultSort settings).direction →
      only = s.defaultSort settings) :
    s.report settings filters [] = s.report settings filters sorts := by
  cases sorts with
  | nil => rfl
  | cons only rest =>
    cases rest with
    | cons => cases default
    | nil =>
      have sameSort : only.sort = s.defaultSort settings := by
        rw [isDefaultSort, Bool.and_eq_true, beq_iff_eq, beq_iff_eq] at default
        exact plain only.sort rfl default.1 default.2
      have sameText : s.queryText settings filters [] = s.queryText settings filters [only] := by
        rw [queryText, queryText, default]
        rfl
      simp [report, sameSort, sameText]

/-- The text of a report is read back as the report. -/
theorem reportText_queryText {filters : List FilterClause} {sorts : List SortClause}
    (stableFilters : ∀ c ∈ filters, c.Stable s) (stableSorts : ∀ c ∈ sorts, c.Stable s) :
    s.reportText settings (s.queryText settings filters sorts) =
      .ok (s.report settings filters (if s.isDefaultSort settings sorts then [] else sorts)) := by
  have conditions : ∀ clause ∈ filters, ∃ c, (ClauseShape clause.text ∧ Condition.read clause.text = .ok c) ∧
      s.conditionClause c = .ok clause := by
    intro clause member
    obtain ⟨shape, c, read, same⟩ := stableFilters clause member
    exact ⟨c, ⟨shape, read⟩, same⟩
  have keys : ∀ clause ∈ sorts, ∃ key, WrittenKey clause.text key ∧ s.sortClause key.1 key.2 = .ok clause := by
    intro clause member
    obtain ⟨path, direction, field, text, written, same⟩ := stableSorts clause member
    exact ⟨(path, direction), ⟨field, text, written⟩, same⟩
  obtain ⟨conditions, related⟩ := exists_forall₂ conditions
  obtain ⟨keys, relatedKeys⟩ := exists_forall₂ keys
  have read : Request.ofText? settings.maxDepth (s.queryText settings filters sorts) =
      .ok ⟨conditions, if s.isDefaultSort settings sorts then [] else keys⟩ :=
    Request.ofText?_queryText (related.imp fun _ _ both => both.1) (relatedKeys.imp fun _ _ both => both.1)
  have again : List.Forall₂ (fun c clause => s.conditionClause c = .ok clause) conditions filters :=
    (related.imp fun _ _ both => both.2).flip
  have sortsAgain : List.Forall₂ (fun key clause => s.sortClause key.1 key.2 = .ok clause) keys sorts :=
    (relatedKeys.imp fun _ _ both => both.2).flip
  rw [reportText_of_read read, reportRequest_eq_ok_iff]
  split
  · exact ⟨filters, [], again, .nil, rfl⟩
  · exact ⟨filters, sorts, again, sortsAgain, rfl⟩

/-- A query that is reported, from an edited query or from text, is reported the same when its own text
is read. This takes a schema whose fields can be addressed, and a sort key that looks like the default
sort has to be the default sort. -/
theorem reportText_query {r : Report} (addressable : s.schema.Addressable)
    (reported : (∃ d, s.reportDraft settings d = .ok r) ∨ ∃ t, s.reportText settings t = .ok r)
    (plain : ∀ only, r.sortBy = [only] → only.name = (s.defaultSort settings).name →
      only.direction = (s.defaultSort settings).direction → only = s.defaultSort settings) :
    s.reportText settings r.query = .ok r := by
  obtain ⟨filters, sorts, rfl, stableFilters, stableSorts⟩ := exists_stable_of_reported addressable reported
  have back : s.reportText settings (s.report settings filters sorts).query =
      .ok (s.report settings filters (if s.isDefaultSort settings sorts then [] else sorts)) :=
    reportText_queryText stableFilters stableSorts
  by_cases default : s.isDefaultSort settings sorts = true
  · rw [if_pos default, isDefaultSort_report default plain] at back
    exact back
  · rw [if_neg default] at back
    exact back

theorem addressable_sample : sample.schema.Addressable := by
  intro i f declared
  rcases i with _ | _ | _ | i
  · cases declared
    exact ⟨by decide, rfl, nofun⟩
  · cases declared
    exact ⟨by decide, rfl, nofun⟩
  · cases declared
    refine ⟨by decide, rfl, ?_⟩
    rintro id same
    cases same
    rfl
  · cases declared

set_option maxRecDepth 4000 in
/-- Items that need quotes, a hashtag in another case, and a custom field, first by its id and then by
its name in another case. -/
theorem reportText_query_sample :
    let d : Draft :=
      { filters := [⟨"labels".toList, some .isIn, some (.list ["a and b".toList, "or".toList]), none⟩,
          ⟨"#Popular".toList, none, none, none⟩,
          ⟨[], some .gte, some (.scalar "2024-05-01".toList), some "G7".toList⟩]
        sortBy := [⟨"due date".toList, .desc, none⟩] }
    let r : Report :=
      { query := ("labels___in: \"a and b\", \"or\" and #popular and \"Due Date\"___gte: 2024-05-01 " ++
          "sort by: -\"Due Date\"").toList
        filters := [
          .field "labels".toList (some .isIn) (.list ["a and b".toList, "or".toList]) "list<string>".toList none,
          .hashtag "popular".toList,
          .field "Due Date".toList (some .gte) (.scalar "2024-05-01".toList) "datetime".toList (some "G7".toList)]
        sortBy := [⟨"Due Date".toList, .desc, some "datetime".toList, some "G7".toList⟩]
        availableFields := [] }
    sample.reportDraft {} d = .ok r ∧ sample.reportText {} r.query = .ok r := by
  intro d r
  have reported : sample.reportDraft {} d = .ok r := by rfl
  refine ⟨reported, reportText_query addressable_sample (Or.inl ⟨d, reported⟩) ?_⟩
  intro only eq name _
  cases eq
  exact absurd name (by decide)

end IssueQuery.Scope
