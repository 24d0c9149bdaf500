import IssueQuery.Proofs.Agreement
import IssueQuery.Proofs.FieldText

namespace IssueQuery

/-- An identifier without an operator is cut at its separators when it is read as a name. -/
theorem Filter.namePath_eq_splitPath {t : Text} {path : List Text} (ident : IsIdentifier t path) :
    namePath t = splitPath t := by
  have read : readPath t = .ok path := (WrittenField.identifier ident).readPath
  rw [namePath, read, ident.segments]

/-- Whether the field text of a hashtag leads to the same field of the schema if it is read as a name as if it is
only cut at its separators. -/
def Schema.LeadsAlike (s : Schema) (h : Hashtag) : Prop :=
  (s.resolve? (Filter.namePath h.field)).map Target.index = (s.resolve? (Filter.splitPath h.field)).map Target.index

theorem Schema.leadsAlike_of_isIdentifier (s : Schema) {h : Hashtag} {path : List Text}
    (ident : Filter.IsIdentifier h.field path) : s.LeadsAlike h := by
  rw [LeadsAlike, Filter.namePath_eq_splitPath ident]

/-- A field as it is listed for further filters. -/
def FieldDef.available (f : FieldDef) : AvailableField := ⟨f.name, f.type.label, f.customId⟩

section Places

variable {α : Type}

/-- The places of the members of a list that pass a test of the member and its place. -/
def placesOf (p : α × Nat → Bool) (xs : List α) : List Nat := (xs.zipIdx.filter p).map Prod.snd

theorem mem_placesOf {p : α × Nat → Bool} {xs : List α} {i : Nat} :
    i ∈ placesOf p xs ↔ ∃ x, xs[i]? = some x ∧ p (x, i) = true := by
  simp only [placesOf, List.mem_map, List.mem_filter, Prod.exists, List.mk_mem_zipIdx_iff_getElem?]
  constructor
  · rintro ⟨x, j, ⟨place, passes⟩, rfl⟩
    exact ⟨x, place, passes⟩
  · rintro ⟨x, place, passes⟩
    exact ⟨x, i, ⟨place, passes⟩, rfl⟩

theorem placesOf_increasing (p : α × Nat → Bool) (xs : List α) : (placesOf p xs).Pairwise (· < ·) := by
  have all : (xs.zipIdx.map Prod.snd).Pairwise (· < ·) := by
    rw [List.zipIdx_map_snd]
    exact List.pairwise_lt_range'
  exact all.sublist (List.filter_sublist.map Prod.snd)

/-- What passes the test is listed in the order of the places. -/
theorem forall₂_placesOf {β : Type} (p : α × Nat → Bool) (xs : List α) (g : α → β) :
    List.Forall₂ (fun i b => xs[i]?.map g = some b) (placesOf p xs) ((xs.zipIdx.filter p).map fun x => g x.1) := by
  rw [placesOf, List.forall₂_map_left_iff, List.forall₂_map_right_iff, List.forall₂_same]
  rintro ⟨x, i⟩ member
  have place : xs[i]? = some x := List.mk_mem_zipIdx_iff_getElem?.mp (List.mem_filter.mp member).1
  rw [place]
  rfl

end Places

namespace Scope

variable {s : Scope} {settings : Settings}

/-- Whether the comparison that a condition is compiled to is on the field at this place of the schema or on a part
of it. -/
def ComparesAt (s : Scope) (c : Condition) (i : Nat) : Prop :=
  ∃ f target, s.expand c = .ok f ∧ s.resolve f.path = .ok target ∧ target.index = i

/-- A condition that compiles compares one field. -/
theorem exists_comparesAt {c : Condition} {comparison : Comparison} (compiled : s.compileCondition c = .ok comparison) :
    ∃ i, s.ComparesAt c i := by
  rw [compileCondition_eq] at compiled
  obtain ⟨f, expanded, compiled⟩ := bind_eq_ok_iff.mp compiled
  obtain ⟨target, resolved, _⟩ := bind_eq_ok_iff.mp compiled
  exact ⟨target.index, f, target, expanded, resolved, rfl⟩

/-- Whether a condition, if it is a hashtag, leads to the same field whichever way the field text is read. -/
def LeadsAlike (s : Scope) (c : Condition) : Prop :=
  ∀ name h, c = .hashtag name → s.schema.hashtag? name = some h → s.schema.LeadsAlike h

/-- The field that a condition compares is the one that its clause uses. -/
theorem index_of_comparesAt {c : Condition} {clause : FilterClause} {i : Nat}
    (written : s.conditionClause c = .ok clause) (alike : s.LeadsAlike c) (compares : s.ComparesAt c i) :
    clause.index = some i := by
  obtain ⟨f, target, expanded, resolved, rfl⟩ := compares
  cases writes_of_conditionClause written with
  | field _ resolved' =>
    cases expanded
    cases resolved.symm.trans resolved'
    rfl
  | @hashtag name h _ found =>
    obtain ⟨_, declared, rfl⟩ := map_eq_ok_iff.mp expanded
    cases declared.symm.trans (expandHashtag_eq_ok_iff.mpr ⟨found, rfl⟩)
    have leads : s.schema.resolve? (Filter.splitPath h.field) = some target := (resolve_eq_ok_iff.mp resolved).1
    have same : (s.schema.resolve? (Filter.namePath h.field)).map Target.index = some target.index := by
      rw [alike name h rfl found, leads]
      rfl
    exact same

theorem index_eq_some_iff {c : Condition} {clause : FilterClause} {i : Nat}
    (written : s.conditionClause c = .ok clause) (alike : s.LeadsAlike c) :
    clause.index = some i ↔ s.ComparesAt c i := by
  refine ⟨fun used => ?_, index_of_comparesAt written alike⟩
  obtain ⟨_, comparison, compiled⟩ := reports_of_conditionClause written
  obtain ⟨j, compares⟩ := exists_comparesAt compiled
  have same : some j = some i := (index_of_comparesAt written alike compares).symm.trans used
  cases same
  exact compares

/-- Whether a field is listed for further filters: the author may use it, and no filter uses its place. -/
def isUnused (s : Scope) (filters : List FilterClause) : FieldDef × Nat → Bool
  | (f, i) => s.allows f && !filters.any fun clause => clause.index == some i

theorem isUnused_iff {filters : List FilterClause} {f : FieldDef} {i : Nat} :
    s.isUnused filters (f, i) = true ↔ s.allows f = true ∧ ¬ ∃ clause ∈ filters, clause.index = some i := by
  simp [isUnused]

/-- A report lists the fields that its filters leave unused: those that the author may use and that no condition of
the request compares, each of them once and in the order of the schema. -/
structure ListsUnused (s : Scope) (q : Request) (r : Report) : Prop where
  filters : List.Forall₂ s.Reports q.conditions r.filters
  unused : ∃ places : List Nat, places.Pairwise (· < ·) ∧
    (∀ i, i ∈ places ↔
      ∃ f, s.schema.fields[i]? = some f ∧ s.allows f = true ∧ ∀ c ∈ q.conditions, ¬ s.ComparesAt c i) ∧
    List.Forall₂ (fun i a => s.schema.fields[i]?.map FieldDef.available = some a) places r.availableFields

theorem listsUnused_of_reportRequest {q : Request} {r : Report} (reported : s.reportRequest settings q = .ok r)
    (alike : ∀ c ∈ q.conditions, s.LeadsAlike c) : s.ListsUnused q r := by
  obtain ⟨filters, sorts, atFilters, _, rfl⟩ := reportRequest_eq_ok_iff.mp reported
  have reports : List.Forall₂ s.Reports q.conditions (filters.map FilterClause.filter) :=
    List.forall₂_map_right_iff.mpr (atFilters.imp fun _ _ written => (reports_of_conditionClause written).1)
  have used (i : Nat) : (∃ clause ∈ filters, clause.index = some i) ↔ ∃ c ∈ q.conditions, s.ComparesAt c i := by
    constructor
    · rintro ⟨clause, member, used⟩
      obtain ⟨c, inRequest, written⟩ := exists_of_mem_forall₂ atFilters member
      exact ⟨c, inRequest, (index_eq_some_iff written (alike c inRequest)).mp used⟩
    · rintro ⟨c, member, compares⟩
      obtain ⟨clause, inReport, written⟩ := exists_of_mem_forall₂ atFilters.flip member
      exact ⟨clause, inReport, (index_eq_some_iff written (alike c member)).mpr compares⟩
  have free (f : FieldDef) (i : Nat) :
      s.isUnused filters (f, i) = true ↔ s.allows f = true ∧ ∀ c ∈ q.conditions, ¬ s.ComparesAt c i := by
    rw [isUnused_iff, used i, not_exists]
    simp only [not_and]
  refine ⟨reports, placesOf (s.isUnused filters) s.schema.fields, placesOf_increasing _ _, fun i => ?_, ?_⟩
  · rw [mem_placesOf]
    exact exists_congr fun f => and_congr_right fun _ => free f i
  · exact forall₂_placesOf (s.isUnused filters) s.schema.fields FieldDef.available

/-- The fields that are listed for further filters are those that the author may use and no filter uses, unless a
hashtag has a field text that is read in two ways. -/
theorem listsUnused_of_reported (s : Scope) (settings : Settings) :
    (∀ d r, s.reportDraft settings d = .ok r →
      ∃ q, d.Asks q ∧ ((∀ c ∈ q.conditions, s.LeadsAlike c) → s.ListsUnused q r)) ∧
    ∀ t r, s.reportText settings t = .ok r →
      ∃ q, Request.ofText? settings.maxDepth t = .ok q ∧
        ((∀ c ∈ q.conditions, s.LeadsAlike c) → s.ListsUnused q r) := by
  constructor
  · intro d r reported
    obtain ⟨q, asks, reported⟩ := exists_request_of_reportDraft reported
    exact ⟨q, asks, listsUnused_of_reportRequest reported⟩
  · intro t r reported
    obtain ⟨q, read, reported⟩ := exists_request_of_reportText reported
    exact ⟨q, read, listsUnused_of_reportRequest reported⟩

set_option maxRecDepth 4000 in
/-- A hashtag and a filter on another field. -/
theorem listsUnused_of_reported_sample :
    let d : Draft := ⟨[⟨"#popular".toList, none, none, none⟩,
      ⟨"labels".toList, none, some (.scalar "ui".toList), none⟩], []⟩
    ∃ r q, sample.reportDraft {} d = .ok r ∧ d.Asks q ∧ (∀ c ∈ q.conditions, sample.LeadsAlike c) ∧
      sample.ListsUnused q r ∧
      r.availableFields = [⟨"Due Date".toList, "datetime".toList, some "G7".toList⟩] := by
  intro d
  obtain ⟨r, reported⟩ : ∃ r, sample.reportDraft {} d = .ok r := ⟨_, rfl⟩
  obtain ⟨q, asks, lists⟩ := (listsUnused_of_reported sample {}).1 d r reported
  have alike : ∀ c ∈ q.conditions, sample.LeadsAlike c := by
    intro c _ name h _ declared
    have only : h = ⟨"popular".toList, "votes".toList, some .gte, "10".toList⟩ :=
      List.mem_singleton.mp (List.mem_of_find?_eq_some declared)
    have ident : Filter.IsIdentifier "votes".toList ["votes".toList] :=
      ⟨by decide, List.all_eq_true.mp (by decide), rfl, rfl, by decide⟩
    rw [only]
    exact Schema.leadsAlike_of_isIdentifier sample.schema ident
  refine ⟨r, q, reported, asks, alike, lists alike, ?_⟩
  cases reported
  rfl

/-- A custom field with parts, and a hashtag for one of them. The name of the field has a blank, so the field text
of the hashtag is no path when it is read as a name. -/
def spaced : Scope :=
  { schema :=
      { fields := [⟨"Meta Data".toList, .object [⟨"code".toList, .string, none⟩], some "G1".toList⟩]
        hashtags := [⟨"done".toList, "Meta Data__code".toList, none, "x".toList⟩] }
    permitted := none }

set_option maxRecDepth 4000 in
/-- A field is listed for further filters although a hashtag compares a part of it. -/
theorem listsUnused_of_reported_spaced :
    let d : Draft := ⟨[⟨"#done".toList, none, none, none⟩], []⟩
    ∃ r q, spaced.reportDraft {} d = .ok r ∧ d.Asks q ∧ q.conditions = [.hashtag "done".toList] ∧
      spaced.ComparesAt (.hashtag "done".toList) 0 ∧
      r.availableFields = [⟨"Meta Data".toList, "object".toList, some "G1".toList⟩] ∧ ¬ spaced.ListsUnused q r := by
  intro d
  have compares : spaced.ComparesAt (.hashtag "done".toList) 0 := ⟨_, _, rfl, rfl, rfl⟩
  refine ⟨_, ⟨[.hashtag "done".toList], []⟩, rfl, ⟨.cons rfl .nil, rfl⟩, rfl, compares, rfl, ?_⟩
  rintro ⟨_, places, _, unused, listed⟩
  cases listed with
  | @cons i _ _ _ atPlace _ =>
    obtain ⟨f, place, _, free⟩ := (unused i).mp List.mem_cons_self
    cases i with
    | zero => exact free _ List.mem_cons_self compares
    | succ i => cases place

end Scope

end IssueQuery
