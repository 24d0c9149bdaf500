import IssueQuery.Proofs.Agreement

namespace IssueQuery

theorem Text.isClosed_join {separator : Text} (between : separator.IsClosed) {ts : List Text}
    (parts : ∀ t ∈ ts, Text.IsClosed t) : Text.IsClosed (join separator ts) := by
  induction ts with
  | nil => rfl
  | cons t ts ih =>
    have first := parts t List.mem_cons_self
    have rest := ih fun u member => parts u (List.mem_cons_of_mem t member)
    cases ts with
    | nil => rwa [join, List.intercalate_singleton]
    | cons u ts =>
      rw [join, List.intercalate_cons_cons]
      exact (first.append between).append rest

namespace Scope

variable {s : Scope} {settings : Settings}

/-- The text of a filter leaves no quotes open. -/
theorem isClosed_of_conditionClause {c : Condition} {clause : FilterClause}
    (written : s.conditionClause c = .ok clause) : Text.IsClosed clause.text := by
  cases writes_of_conditionClause written with
  | @field f _ _ _ _ _ _ atField nonempty rendered =>
    have items := (Filter.itemsForm_of_renderItems rendered nonempty).isClosed
    have operator := Text.isClosed_of_not_mem (Filter.isPlain_renderOperator f.operator).not_mem
    have colon : Text.IsClosed [':'] := rfl
    exact ((Filter.isClosed_of_renderField atField).append operator).append (colon.append items)
  | hashtag _ _ _ letters =>
    have mark : Text.IsClosed ['#'] := rfl
    have name := Text.solid_of_bare fun c member => isBareChar_of_isHashtagChar (letters c member)
    exact mark.append name.closed

/-- The sort clause of a report is found in its text, if it has not been left out. -/
theorem isDefaultSort_of_unsorted {filters : List FilterClause} {sorts : List SortClause}
    (closed : ∀ clause ∈ filters, Text.IsClosed clause.text)
    (unsorted : (Search.split (s.queryText settings filters sorts)).2 = none) :
    s.isDefaultSort settings sorts = true := by
  by_contra written
  have between : Text.IsClosed " and ".toList := rfl
  have filterText : Text.IsClosed (Text.join " and ".toList (filters.map FilterClause.text)) := by
    refine Text.isClosed_join between fun t member => ?_
    obtain ⟨clause, inFilters, rfl⟩ := List.mem_map.mp member
    exact closed clause inFilters
  rw [queryText, if_neg written] at unsorted
  generalize Text.join " and ".toList (filters.map FilterClause.text) = t at filterText unsorted
  generalize Text.join [',', ' '] (sorts.map SortClause.text) = clause at unsorted
  have closedGap : Text.IsClosed (t ++ if t = [] then [] else [' ']) := by
    split
    · rwa [List.append_nil]
    · exact filterText.append rfl
  have apart : Text.endsWord (t ++ if t = [] then [] else [' ']) = false := by
    split
    · rename_i empty
      rw [empty]
      rfl
    · have blank : isWordChar ' ' = false := by decide +kernel
      simpa [Text.endsWord] using blank
  obtain ⟨m, marked⟩ := Search.exists_markedAt_sort _ clause apart
  have found := marked.isSome_split closedGap
  rw [List.append_assoc] at unsorted
  rw [unsorted] at found
  cases found

/-- Whether a sort key leads to a field that has the type and the id of the default sort. -/
def SortsAsDefault (s : Scope) (settings : Settings) (k : DraftSort) : Prop :=
  ∃ target default, s.schema.resolve? (draftPath k.customId k.name) = some target ∧
    s.schema.resolve? (Filter.namePath settings.defaultSortField) = some default ∧
    target.type.label = default.type.label ∧ target.field.customId = default.field.customId

/-- A sort key that has the name and the direction of the default sort is reported as it if the types and the ids
agree. A default sort that leads nowhere has no type, so no sort key is reported as it. -/
theorem reportedSort_eq_defaultSort_iff {target : Target} {direction : Direction}
    (name : target.name = (s.defaultSort settings).name) (same : direction = (s.defaultSort settings).direction) :
    target.reportedSort direction = s.defaultSort settings ↔
      ∃ default, s.schema.resolve? (Filter.namePath settings.defaultSortField) = some default ∧
        target.type.label = default.type.label ∧ target.field.customId = default.field.customId := by
  rw [defaultSort] at name same ⊢
  cases leads : s.schema.resolve? (Filter.namePath settings.defaultSortField) with
  | none => simp [Target.reportedSort]
  | some default =>
    rw [leads] at name same
    have sameName : target.name = default.name := name
    have sameDirection : direction = settings.defaultSortDirection := same
    simp [Target.reportedSort, sameName, sameDirection]

/-- A sort clause that can be left out has the name and the direction of the default sort. It is the default sort if,
and only if, its field has the type and the id as well. -/
theorem reportedSort_of_isDefaultSort {k : DraftSort} {only : SortClause}
    (written : s.sortClause (draftPath k.customId k.name) k.direction = .ok only)
    (default : s.isDefaultSort settings [only] = true) :
    (only.sort.name, only.sort.direction) = ((s.defaultSort settings).name, (s.defaultSort settings).direction) ∧
      (only.sort = s.defaultSort settings ↔ s.SortsAsDefault settings k) := by
  rw [isDefaultSort, Bool.and_eq_true, beq_iff_eq, beq_iff_eq] at default
  obtain ⟨target, resolved, sort⟩ := exists_target_of_sortClause written
  have leads : s.schema.resolve? (draftPath k.customId k.name) = some target := (resolveSort_eq_ok_iff.mp resolved).1
  rw [sort] at default ⊢
  have name : target.name = (s.defaultSort settings).name := default.1
  have direction : k.direction = (s.defaultSort settings).direction := default.2
  refine ⟨Prod.ext name direction, ?_⟩
  rw [reportedSort_eq_defaultSort_iff name direction, SortsAsDefault]
  constructor
  · rintro ⟨u, atDefault, agrees⟩
    exact ⟨target, u, leads, atDefault, agrees⟩
  · rintro ⟨target', u, leads', atDefault, agrees⟩
    cases leads.symm.trans leads'
    exact ⟨u, atDefault, agrees⟩

/-- A report whose text has no sort clause lists the sort that is reported without sort keys up to its type and
its id. These agree as well if, and only if, each sort key leads to a field that has them. -/
theorem sortBy_of_unsorted {d : Draft} {r : Report} (reported : s.reportDraft settings d = .ok r)
    (unsorted : (Search.split r.query).2 = none) :
    ∃ r', s.reportDraft settings { d with sortBy := [] } = .ok r' ∧
      r.sortBy.map (fun k => (k.name, k.direction)) = r'.sortBy.map (fun k => (k.name, k.direction)) ∧
      (r.sortBy = r'.sortBy ↔ ∀ k ∈ d.sortBy, s.SortsAsDefault settings k) := by
  obtain ⟨fs, keys⟩ := d
  obtain ⟨filters, atFilters, reported⟩ := bind_eq_ok_iff.mp reported
  obtain ⟨sorts, atSorts, eq⟩ := bind_eq_ok_iff.mp reported
  cases eq
  have closed : ∀ clause ∈ filters, Text.IsClosed clause.text := by
    intro clause member
    rw [draftFilterClauses_eq, mapM_eq_ok_iff] at atFilters
    obtain ⟨f, _, written⟩ := exists_of_mem_forall₂ atFilters member
    obtain ⟨c, _, written⟩ := exists_condition_of_draftFilterClause written
    exact isClosed_of_conditionClause written
  have default := isDefaultSort_of_unsorted closed unsorted
  refine ⟨s.report settings filters [], ?_, ?_⟩
  · rw [reportDraft, atFilters]
    rfl
  rw [draftSortClauses_eq, mapM_eq_ok_iff, List.forall₂_map_left_iff] at atSorts
  cases atSorts with
  | nil => exact ⟨rfl, iff_of_true rfl nofun⟩
  | @cons k only _ _ written more =>
    cases more with
    | cons => cases default
    | nil =>
      obtain ⟨same, iff⟩ := reportedSort_of_isDefaultSort written default
      have sorts : (s.report settings filters [only]).sortBy = [only.sort] := rfl
      have defaults : (s.report settings filters []).sortBy = [s.defaultSort settings] := rfl
      rw [sorts, defaults, List.forall_mem_singleton, List.singleton_inj]
      exact ⟨congrArg (fun pair => [pair]) same, iff⟩

set_option maxRecDepth 4000 in
/-- A sort key that leads to the field of the default sort. -/
theorem sortBy_of_unsorted_sample :
    let settings : Settings := { defaultSortField := "votes".toList }
    let d : Draft := ⟨[⟨"#popular".toList, none, none, none⟩], [⟨"votes".toList, .desc, none⟩]⟩
    ∃ r r', sample.reportDraft settings d = .ok r ∧ (Search.split r.query).2 = none ∧
      sample.reportDraft settings { d with sortBy := [] } = .ok r' ∧
      r.sortBy.map (fun k => (k.name, k.direction)) = r'.sortBy.map (fun k => (k.name, k.direction)) ∧
      (r.sortBy = r'.sortBy ↔ ∀ k ∈ d.sortBy, sample.SortsAsDefault settings k) ∧ r.sortBy = r'.sortBy := by
  intro settings d
  obtain ⟨r, reported⟩ : ∃ r, sample.reportDraft settings d = .ok r := ⟨_, rfl⟩
  have unsorted : (Search.split r.query).2 = none := by
    cases reported
    rfl
  obtain ⟨r', default, same, iff⟩ := sortBy_of_unsorted reported unsorted
  refine ⟨r, r', reported, unsorted, default, same, iff, iff.mpr ?_⟩
  exact List.forall_mem_singleton.mpr ⟨_, _, rfl, rfl, rfl, rfl⟩

/-- A part of a reserved field, and a custom field that is named as this part is written. -/
def homonymous : Scope :=
  { schema :=
      { fields := [⟨"a".toList, .object [⟨"b".toList, .int, none⟩], none⟩, ⟨"a__b".toList, .int, some "G9".toList⟩] }
    permitted := none }

set_option maxRecDepth 4000 in
/-- A sort clause is left out although the default sort is by another field. -/
theorem sortBy_of_unsorted_homonymous :
    let settings : Settings := { defaultSortField := "a__b".toList }
    let d : Draft := ⟨[], [⟨"a__b".toList, .desc, some "G9".toList⟩]⟩
    ∃ r r', homonymous.reportDraft settings d = .ok r ∧ (Search.split r.query).2 = none ∧
      homonymous.reportDraft settings { d with sortBy := [] } = .ok r' ∧
      r.sortBy = [⟨"a__b".toList, .desc, some "int".toList, some "G9".toList⟩] ∧
      r'.sortBy = [⟨"a__b".toList, .desc, some "int".toList, none⟩] ∧ r.sortBy ≠ r'.sortBy :=
  ⟨_, _, rfl, rfl, rfl, rfl, rfl, by decide⟩

end Scope

end IssueQuery
