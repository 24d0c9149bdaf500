import IssueQuery.Proofs.Addressing
import IssueQuery.Proofs.ClauseShape

namespace IssueQuery

namespace Filter

theorem isPlain_renderOperator (op : Option Operator) : (renderOperator op).IsPlain := by
  refine Text.isPlain_of_bare fun c member => ?_
  cases op with
  | none => cases member
  | some op =>
    rcases List.mem_append.mp member with inMark | inName
    · exact List.all_eq_true.mp (show operatorMark.all isBareChar = true by decide +kernel) c inMark
    · exact isBareChar_of_isIdentChar (isIdentChar_of_mem_name inName)

theorem isPlain_mark {c : Char} (mark : c = ':' ∨ c = ',') : Text.IsPlain [c] := by
  intro d member
  rw [List.mem_singleton.mp member]
  rcases mark with rfl | rfl <;> decide

theorem WrittenField.chunk {t : Text} {path : List Text} (written : WrittenField t path) (op : Option Operator) :
    Chunk (t ++ (renderOperator op ++ [':'])) := by
  have suffix : Text.IsPlain (renderOperator op ++ [':']) :=
    (isPlain_renderOperator op).append (isPlain_mark (Or.inl rfl))
  cases written with
  | identifier ident =>
    have letters := Text.isPlain_of_bare fun c member => isBareChar_of_isIdentChar (ident.letters c member)
    exact .word (by simp) (letters.append suffix) (ofKeyword?_eq_none_of_mem (c := ':') (by simp) (by decide))
  | quoted free => exact .quoted free suffix

namespace WrittenItem

variable {t item : Text}

theorem chunk (written : WrittenItem t item) : Chunk t := by
  cases written with
  | bare nonempty letters other => exact .word nonempty (Text.isPlain_of_bare letters) other
  | quoted free =>
    rw [← List.append_nil (quote item)]
    exact .quoted free (by simp [Text.IsPlain])

theorem chunk_comma (written : WrittenItem t item) : Chunk (t ++ [',']) := by
  have comma := isPlain_mark (Or.inr (rfl : ',' = ','))
  cases written with
  | bare _ letters =>
    exact .word (by simp) ((Text.isPlain_of_bare letters).append comma)
      (ofKeyword?_eq_none_of_mem (c := ',') (by simp) (by decide))
  | quoted free => exact .quoted free comma

end WrittenItem

/-- The items of a value are written in the shape of a clause. -/
theorem clauseShape_of_renderItems {items texts : List Text} (rendered : renderItems items = .ok texts)
    (nonempty : items ≠ []) : ClauseShape (Text.join [',', ' '] texts) := by
  induction items generalizing texts with
  | nil => exact absurd rfl nonempty
  | cons item items ih =>
    obtain ⟨t, ts, first, rest, rfl⟩ := renderItems_cons_eq_ok_iff.mp rendered
    have written := writtenItem_of_renderItem first
    by_cases last : items = []
    · subst last
      cases rest
      rw [Text.join, List.intercalate_singleton]
      exact .chunk written.chunk
    · have shape := ih rest last
      have whole : Text.join [',', ' '] (t :: ts) = (t ++ [',']) ++ ' ' :: Text.join [',', ' '] ts := by
        rw [join_renderItems rest last, List.append_assoc]
        rfl
      rw [whole]
      exact .cons written.chunk_comma (by simp) shape

/-- A filter as a clause: a written path, an operator or none, and written items. -/
theorem clauseShape {t : Text} {path : List Text} (written : WrittenField t path) (op : Option Operator)
    {items texts : List Text} (rendered : renderItems items = .ok texts) (nonempty : items ≠ []) :
    ClauseShape (t ++ renderOperator op ++ ':' :: ' ' :: Text.join [',', ' '] texts) := by
  have split : t ++ renderOperator op ++ ':' :: ' ' :: Text.join [',', ' '] texts =
      (t ++ (renderOperator op ++ [':'])) ++ ' ' :: Text.join [',', ' '] texts := by simp
  rw [split]
  exact .cons (written.chunk op) (by simp) (clauseShape_of_renderItems rendered nonempty)

/-- A filter that is written as a clause is read back. -/
theorem read_clause {t : Text} {path : List Text} (written : WrittenField t path) (op : Option Operator)
    {items texts : List Text} (rendered : renderItems items = .ok texts) (nonempty : items ≠ []) :
    Condition.read (t ++ renderOperator op ++ ':' :: ' ' :: Text.join [',', ' '] texts) =
      .ok (.field ⟨path, op, .ofItems items⟩) :=
  written.read_condition op (valueForm_iff.mpr ⟨_, itemsForm_of_renderItems rendered nonempty, rfl⟩)

end Filter

/-- A hashtag that is written as a clause is read back. -/
theorem Condition.read_hashtag {name : Text} (nonempty : name ≠ []) (letters : ∀ c ∈ name, isHashtagChar c = true) :
    Condition.read ('#' :: name) = .ok (.hashtag name) := by
  have form := Condition.Form.hashtag Text.isBlank_nil nonempty letters Text.isBlank_nil
  rw [List.append_nil] at form
  exact form.read

theorem RawValue.items_ofItems (items : List Text) : (RawValue.ofItems items).items = items := by
  unfold ofItems
  split <;> rfl

/-- Only the items of a value matter for the form in which an operator shows it. -/
theorem RawValue.normalizedFor_congr {v w : RawValue} (same : v.items = w.items) (op : Operator) :
    v.normalizedFor op = w.normalizedFor op := by
  unfold normalizedFor
  rw [same]
  cases v <;> cases w <;> cases same <;> rfl

theorem RawValue.items_normalizedFor (op : Operator) (v : RawValue) : (v.normalizedFor op).items = v.items := by
  unfold normalizedFor
  split
  · rfl
  · split <;> rfl

/-- The clause that a condition is reported as. -/
def Scope.conditionClause (s : Scope) : Condition → Except QueryError FilterClause
  | .field f => s.filterClause f
  | .hashtag name => s.hashtagClause name

/-- The filter that a hashtag is short for. -/
def Hashtag.filter (h : Hashtag) : Filter := ⟨Filter.splitPath h.field, h.operator, .scalar h.value⟩

/-- How a condition is written: a filter that compiles under the name that its path leads to, with its value, and a
hashtag that compiles under its declared name. -/
inductive Scope.Writes (s : Scope) : Condition → FilterClause → Prop
  | field {f : Filter} {target : Target} {comparison : Comparison} {t : Text} {texts : List Text} :
      s.compileFilter f = .ok comparison → s.resolve f.path = .ok target →
      Filter.renderField target.field f.path.tail = .ok t → f.value.items ≠ [] →
      Filter.renderItems f.value.items = .ok texts →
      Writes s (.field f) {
        filter := .field target.name f.operator (f.value.normalizedFor f.effectiveOperator) target.type.label
          target.field.customId
        text := t ++ Filter.renderOperator f.operator ++ ':' :: ' ' :: Text.join [',', ' '] texts
        index := some target.index }
  | hashtag {name : Text} {h : Hashtag} {comparison : Comparison} :
      s.schema.hashtag? name = some h → s.compileFilter h.filter = .ok comparison → h.name ≠ [] →
      (∀ c ∈ h.name, isHashtagChar c = true) →
      Writes s (.hashtag name) {
        filter := .hashtag h.name
        text := '#' :: h.name
        index := (s.schema.resolve? (Filter.namePath h.field)).map Target.index }

/-- The comparison that a condition makes. -/
def Scope.compileCondition (s : Scope) : Condition → Except QueryError Comparison
  | .field f => s.compileFilter f
  | .hashtag name => s.compileHashtag name

/-- The filter that a condition is compiled as. -/
def Scope.expand (s : Scope) : Condition → Except QueryError Filter
  | .field f => .ok f
  | .hashtag name => (s.expandHashtag name).map Prod.snd

theorem Scope.compileCondition_eq (s : Scope) (c : Condition) :
    s.compileCondition c = s.expand c >>= s.compileFilter := by
  cases c with
  | field f => rfl
  | hashtag name =>
    rw [compileCondition, compileHashtag, expand]
    cases s.expandHashtag name <;> rfl

/-- A text restates a condition if it has the shape of a clause and is read as a condition with the same
clause and the same comparison. -/
structure Scope.Restates (s : Scope) (t : Text) (c c' : Condition) : Prop where
  shape : ClauseShape t
  read : Condition.read t = .ok c'
  clause : s.conditionClause c' = s.conditionClause c
  comparison : s.compileCondition c' = s.compileCondition c

/-- A clause is stable if its text has the shape of a clause and is read back as the same clause. -/
structure FilterClause.Stable (s : Scope) (clause : FilterClause) : Prop where
  shape : ClauseShape clause.text
  reread : ∃ c, Condition.read clause.text = .ok c ∧ s.conditionClause c = .ok clause

namespace Scope

variable {s : Scope}

theorem compileFilter_congr {f g : Filter} (target : s.resolve g.path = s.resolve f.path)
    (operator : g.operator = f.operator) (items : g.value.items = f.value.items) :
    s.compileFilter g = s.compileFilter f := by
  have same (t : Target) (op : Operator) : compileValue t op g.value = compileValue t op f.value := by
    rw [compileValue, compileValue, items]
  simp only [compileFilter, target, Filter.effectiveOperator, operator, same]
  rfl

/-- A filter clause depends on what the path of the filter leads to, on its operator and on the items of
its value. -/
theorem filterClause_congr {f g : Filter} (nonempty : f.value.items ≠ [])
    (target : s.resolve g.path = s.resolve f.path) (rest : g.path.tail = f.path.tail)
    (operator : g.operator = f.operator) (items : g.value.items = f.value.items) :
    s.filterClause g = s.filterClause f := by
  have normalized (op : Operator) := RawValue.normalizedFor_congr items op
  have effective : g.effectiveOperator = f.effectiveOperator := by
    rw [Filter.effectiveOperator, Filter.effectiveOperator, operator]
  rw [filterClause, filterClause, if_neg nonempty, if_neg (by rwa [items]), compileFilter_congr target operator items]
  simp only [target, rest, normalized, effective, operator]

theorem expandHashtag_eq_ok_iff {name : Text} {h : Hashtag} {f : Filter} :
    s.expandHashtag name = .ok (h, f) ↔ s.schema.hashtag? name = some h ∧ h.filter = f := by
  unfold expandHashtag
  cases s.schema.hashtag? name with
  | none => simp
  | some g =>
    rw [Except.ok.injEq, Prod.mk.injEq, Option.some_inj]
    constructor
    · rintro ⟨rfl, same⟩
      exact ⟨rfl, same⟩
    · rintro ⟨rfl, same⟩
      exact ⟨rfl, same⟩

theorem expandHashtag_name {name : Text} {h : Hashtag} (found : s.schema.hashtag? name = some h) :
    s.expandHashtag h.name = s.expandHashtag name := by
  rw [expandHashtag, expandHashtag, found, Schema.hashtag?_name found]

theorem writes_of_conditionClause {c : Condition} {clause : FilterClause} (written : s.conditionClause c = .ok clause) :
    s.Writes c clause := by
  cases c with
  | field f =>
    rw [conditionClause, filterClause] at written
    split at written
    · cases written
    · rename_i nonempty
      obtain ⟨comparison, compiled, written⟩ := bind_eq_ok_iff.mp written
      obtain ⟨target, resolved, written⟩ := bind_eq_ok_iff.mp written
      obtain ⟨t, atField, written⟩ := bind_eq_ok_iff.mp written
      obtain ⟨_, atValue, written⟩ := bind_eq_ok_iff.mp written
      obtain ⟨texts, rendered, rfl⟩ := map_eq_ok_iff.mp atValue
      rw [RawValue.items_normalizedFor] at rendered
      cases written
      exact .field compiled resolved atField nonempty rendered
  | hashtag name =>
    rw [conditionClause, hashtagClause] at written
    obtain ⟨⟨h, f⟩, expanded, written⟩ := bind_eq_ok_iff.mp written
    obtain ⟨found, rfl⟩ := expandHashtag_eq_ok_iff.mp expanded
    obtain ⟨comparison, compiled, written⟩ := bind_eq_ok_iff.mp written
    split at written
    · rename_i spelled
      cases written
      exact .hashtag found compiled spelled.1 (List.all_eq_true.mp spelled.2)
    · cases written

/-- The clause of a condition restates the condition. -/
theorem exists_restated (addressable : s.schema.Addressable) {c : Condition} {clause : FilterClause}
    (written : s.conditionClause c = .ok clause) : ∃ c', s.Restates clause.text c c' := by
  cases writes_of_conditionClause written with
  | @field f target _ _ _ _ resolved renderedField nonempty rendered =>
    obtain ⟨leads, allowed⟩ := resolve_eq_ok_iff.mp resolved
    obtain ⟨path, writtenField, rest, same⟩ := addressable.exists_written leads renderedField
    have again : s.resolve path = s.resolve f.path := by
      rw [resolved]
      exact resolve_eq_ok_iff.mpr ⟨same.trans leads, allowed⟩
    have items : (RawValue.ofItems f.value.items).items = f.value.items := RawValue.items_ofItems _
    exact ⟨_, Filter.clauseShape writtenField f.operator rendered nonempty,
      Filter.read_clause writtenField f.operator rendered nonempty,
      filterClause_congr nonempty again rest rfl items, compileFilter_congr again rfl items⟩
  | @hashtag name h _ found _ nonempty letters =>
    have again := expandHashtag_name found
    have plain : Text.IsPlain ('#' :: h.name) :=
      Text.IsPlain.append (t := ['#']) (by simp [Text.IsPlain]; decide)
        (Text.isPlain_of_bare fun c member => isBareChar_of_isHashtagChar (letters c member))
    refine ⟨.hashtag h.name,
      .chunk (.word (by simp) plain (ofKeyword?_eq_none_of_mem (c := '#') (by simp) (by decide))),
      Condition.read_hashtag nonempty letters, ?_, ?_⟩
    · rw [conditionClause, conditionClause, hashtagClause, hashtagClause, again]
    · rw [compileCondition, compileCondition, compileHashtag, compileHashtag, again]

theorem stable_of_conditionClause (addressable : s.schema.Addressable) {c : Condition} {clause : FilterClause}
    (written : s.conditionClause c = .ok clause) : clause.Stable s := by
  obtain ⟨c', restates⟩ := exists_restated addressable written
  exact ⟨restates.shape, c', restates.read, restates.clause.trans written⟩

end Scope

end IssueQuery
