import IssueQuery.Proofs.SortText

namespace IssueQuery.Scope

variable {s : Scope} {settings : Settings}

/-- What is reported is reported as a request, whether it is an edited query or a text. -/
theorem exists_request_of_reported {r : Report}
    (reported : (∃ d, s.reportDraft settings d = .ok r) ∨ ∃ t, s.reportText settings t = .ok r) :
    ∃ q, s.reportRequest settings q = .ok r := by
  rcases reported with ⟨d, reported⟩ | ⟨t, reported⟩
  · obtain ⟨q, _, reported⟩ := exists_request_of_reportDraft reported
    exact ⟨q, reported⟩
  · obtain ⟨q, _, reported⟩ := exists_request_of_reportText reported
    exact ⟨q, reported⟩

/-- A report is written from stable clauses, whether it comes from an edited query or from text. -/
theorem exists_stable_of_reported (addressable : s.schema.Addressable) {r : Report}
    (reported : (∃ d, s.reportDraft settings d = .ok r) ∨ ∃ t, s.reportText settings t = .ok r) :
    ∃ filters sorts, r = s.report settings filters sorts ∧ (∀ c ∈ filters, c.Stable s) ∧
      ∀ c ∈ sorts, c.Stable s := by
  obtain ⟨q, reported⟩ := exists_request_of_reported reported
  obtain ⟨filters, sorts, atFilters, atSorts, rfl⟩ := reportRequest_eq_ok_iff.mp reported
  refine ⟨filters, sorts, rfl, fun clause member => ?_, fun clause member => ?_⟩
  · obtain ⟨c, _, written⟩ := exists_of_mem_forall₂ atFilters member
    exact stable_of_conditionClause addressable written
  · obtain ⟨key, _, written⟩ := exists_of_mem_forall₂ atSorts member
    exact stable_of_sortClause addressable written

end IssueQuery.Scope
