import IssueQuery.Proofs.Agreement

namespace IssueQuery

/-- The id under which a filter is reported. Only a filter on a custom field has one. -/
def ReportedFilter.customId : ReportedFilter → Option Text
  | .field _ _ _ _ id => id
  | .hashtag _ => none

namespace Schema

variable {s : Schema} {i : Nat} {f : FieldDef} {id : Text}

theorem find?_fields (s : Schema) (p : FieldDef → Bool) : s.fields.find? p = (s.findField? p).map Prod.snd := by
  have unindexed : s.fields.find? p = (s.fields.zipIdx.map Prod.fst).find? p := by rw [List.zipIdx_map_fst]
  rw [unindexed, List.find?_map, findField?, Option.map_map]
  rfl

theorem find?_of_findField? {p : FieldDef → Bool} (found : s.findField? p = some (i, f)) :
    s.fields.find? p = some f := by
  rw [find?_fields, found]
  rfl

/-- Whether an id stands for another field than the one that has it: a reserved field of that name, or a
custom field of that name in any case, the first of which has another id. -/
def Shadows (s : Schema) (id : Text) : Prop :=
  (∃ f ∈ s.fields, f.customId = none ∧ f.name = id) ∨
    ∃ f, s.fields.find? (fun f => f.isCustom && Text.sameLetters f.name id) = some f ∧ f.customId ≠ some id

/-- Names are looked up before ids, so an id leads to its own field if no name stands in the way. -/
theorem lookup?_customId_iff (found : s.lookup? id = some (i, f)) : f.customId = some id ↔ ¬ s.Shadows id := by
  unfold lookup? customField? at found
  rcases Option.or_eq_some_iff.mp found with reserved | ⟨noReserved, found⟩
  · have first := find?_of_findField? reserved
    have named : f.customId = none ∧ f.name = id := by simpa [FieldDef.isCustom] using List.find?_some first
    have shadows : s.Shadows id := Or.inl ⟨f, List.mem_of_find?_eq_some first, named⟩
    simp [named.1, shadows]
  · have unreserved : ¬ ∃ f ∈ s.fields, f.customId = none ∧ f.name = id := by
      rintro ⟨g, member, reserved, rfl⟩
      have none := s.find?_fields fun f => !f.isCustom && f.name = g.name
      rw [noReserved] at none
      simpa [FieldDef.isCustom, reserved] using List.find?_eq_none.mp none g member
    rcases Option.or_eq_some_iff.mp found with byName | ⟨noName, byId⟩
    · have first := find?_of_findField? byName
      simp [Shadows, unreserved, first]
    · have noFirst := s.find?_fields fun f => f.isCustom && Text.sameLetters f.name id
      rw [noName] at noFirst
      have own : f.customId = some id := by simpa using List.find?_some (find?_of_findField? byId)
      simp [Shadows, unreserved, noFirst, own]

theorem customId_of_resolve? {target : Target} (leads : s.resolve? [id] = some target) :
    target.field.customId = some id ↔ ¬ s.Shadows id := by
  obtain ⟨root, rest, eq, found⟩ := resolve?_eq_some leads
  cases eq
  exact lookup?_customId_iff found

end Schema

namespace Scope

variable {s : Scope} {settings : Settings}

/-- An edited filter with an id is reported as what the id stands for. -/
theorem customId_of_conditionClause {f : DraftFilter} {id : Text} (custom : f.customId = some id) {c : Condition}
    (stands : f.condition? = some c) {clause : FilterClause} (written : s.conditionClause c = .ok clause) :
    clause.filter.customId = some id ↔ ¬ s.schema.Shadows id := by
  have field : ¬ f.IsHashtag := by
    rintro ⟨_, _, noId⟩
    rw [custom] at noId
    cases noId
  rw [DraftFilter.condition?_of_field field, custom] at stands
  obtain ⟨value, _, rfl⟩ := Option.map_eq_some_iff.mp stands
  have reports := (reports_of_conditionClause written).1
  generalize clause.filter = reported at reports
  cases reports with
  | field resolved => exact Schema.customId_of_resolve? (resolve_eq_ok_iff.mp resolved).1

theorem customId_of_sortClause {id : Text} {direction : Direction} {clause : SortClause}
    (written : s.sortClause [id] direction = .ok clause) :
    clause.sort.customId = some id ↔ ¬ s.schema.Shadows id := by
  obtain ⟨target, resolved, sort⟩ := exists_target_of_sortClause written
  rw [sort]
  exact Schema.customId_of_resolve? (resolveSort_eq_ok_iff.mp resolved).1

/-- A filter or a sort key that names a custom field by its id is reported with this id if, and only if,
no reserved field has the id as its name, and the first custom field that has it as its name, if there is
one, has it as its id too. -/
theorem reportDraft_customId_iff {d : Draft} {r : Report} (reported : s.reportDraft settings d = .ok r) :
    (∀ (i : Nat) (f : DraftFilter) (id : Text), d.filters[i]? = some f → f.customId = some id →
      ∃ f' : ReportedFilter, r.filters[i]? = some f' ∧ (f'.customId = some id ↔ ¬ s.schema.Shadows id)) ∧
    ∀ (j : Nat) (k : DraftSort) (id : Text), d.sortBy[j]? = some k → k.customId = some id →
      ∃ k' : ReportedSort, r.sortBy[j]? = some k' ∧ (k'.customId = some id ↔ ¬ s.schema.Shadows id) := by
  obtain ⟨q, asks, reported⟩ := exists_request_of_reportDraft reported
  obtain ⟨filters, sorts, atFilters, atSorts, rfl⟩ := reportRequest_eq_ok_iff.mp reported
  constructor
  · intro i f id atF custom
    obtain ⟨c, atC, stands⟩ := exists_getElem?_of_forall₂ asks.filters atF
    obtain ⟨clause, atClause, written⟩ := exists_getElem?_of_forall₂ atFilters atC
    refine ⟨clause.filter, ?_, customId_of_conditionClause custom stands written⟩
    rw [report, List.getElem?_map, atClause]
    rfl
  · intro j k id atK custom
    rw [asks.sortBy] at atSorts
    have atKey : (d.sortBy.map DraftSort.key)[j]? = some ([id], k.direction) := by
      rw [List.getElem?_map, atK, Option.map_some, DraftSort.key, custom]
      rfl
    obtain ⟨clause, atClause, written⟩ := exists_getElem?_of_forall₂ atSorts atKey
    refine ⟨clause.sort, ?_, customId_of_sortClause written⟩
    have nonempty : sorts.isEmpty = false := by
      cases sorts with
      | nil => simp at atClause
      | cons => rfl
    rw [report, nonempty, if_neg Bool.false_ne_true, List.getElem?_map, atClause]
    rfl

set_option maxRecDepth 4000 in
/-- The id of a custom field that no name stands in the way of, in a filter and in a sort key. -/
theorem reportDraft_customId_iff_sample :
    let id : Text := "G7".toList
    let f : DraftFilter := ⟨[], some .ne, some (.scalar "soon".toList), some id⟩
    let k : DraftSort := ⟨[], .asc, some id⟩
    ∃ r, sample.reportDraft {} ⟨[f], [k]⟩ = .ok r ∧
      (∃ f' : ReportedFilter, r.filters[0]? = some f' ∧ (f'.customId = some id ↔ ¬ sample.schema.Shadows id)) ∧
      ∃ k' : ReportedSort, r.sortBy[0]? = some k' ∧ (k'.customId = some id ↔ ¬ sample.schema.Shadows id) := by
  intro id f k
  obtain ⟨r, reported⟩ : ∃ r, sample.reportDraft {} ⟨[f], [k]⟩ = .ok r := ⟨_, rfl⟩
  have iff := reportDraft_customId_iff reported
  exact ⟨r, reported, iff.1 0 f id rfl rfl, iff.2 0 k id rfl rfl⟩

/-- Custom fields with the ids `G1` and `G3`, the first of which is the name of a reserved field and the
second, in another case, that of another custom field. -/
def shadowed : Scope :=
  { schema :=
      { fields := [⟨"G1".toList, .string, none⟩, ⟨"Priority".toList, .string, some "G1".toList⟩,
          ⟨"g3".toList, .string, some "G2".toList⟩, ⟨"Estimate".toList, .string, some "G3".toList⟩] }
    permitted := none }

set_option maxRecDepth 4000 in
/-- An id does not always lead to its own field. -/
theorem reportDraft_customId_shadowed :
    let d : Draft :=
      { filters := [⟨[], none, some (.scalar "x".toList), some "G1".toList⟩,
          ⟨[], none, some (.scalar "x".toList), some "G3".toList⟩]
        sortBy := [⟨[], .asc, some "G1".toList⟩, ⟨[], .asc, some "G3".toList⟩] }
    ∃ r, shadowed.reportDraft {} d = .ok r ∧
      d.filters.map DraftFilter.customId = [some "G1".toList, some "G3".toList] ∧
      r.filters.map ReportedFilter.customId = [none, some "G2".toList] ∧
      d.sortBy.map DraftSort.customId = [some "G1".toList, some "G3".toList] ∧
      r.sortBy.map ReportedSort.customId = [none, some "G2".toList] :=
  ⟨_, rfl, rfl, rfl, rfl, rfl⟩

end Scope

end IssueQuery
