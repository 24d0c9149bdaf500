import IssueQuery.Proofs.Lookup
import IssueQuery.Proofs.Typing

namespace IssueQuery

namespace Comparison

/-- Some value found stands in a strict order or is equal, in one test or in two. -/
theorem anyOrder_or_equal (c : Comparison) (found : List Json) {accept : Ordering → Bool} {strict : Ordering}
    (either : ∀ o, accept o = (o == strict || o == .eq)) :
    c.anyOrder found accept = (c.anyOrder found (fun o => o == strict) || found.any c.value.equals) := by
  have tests (x : Option Ordering) : x.any accept = (x.any (fun o => o == strict) || x == some .eq) := by
    cases x with
    | none => rfl
    | some o => exact either o
  rw [Bool.eq_iff_iff]
  simp only [anyOrder, Value.equals, tests, Bool.or_eq_true, List.any_eq_true, and_or_left, exists_or]

section Operators

variable (path : List Text) (doc : Json)

theorem holds_ne (v : Value) : holds ⟨path, .ne, v⟩ doc = !holds ⟨path, .eq, v⟩ doc := rfl

/-- Some value found is in the list if some value in the list is found. -/
theorem holds_isIn (vs : List Value) :
    holds ⟨path, .isIn, .list vs⟩ doc = vs.any fun v => holds ⟨path, .eq, v⟩ doc := by
  rw [Bool.eq_iff_iff]
  simp only [holds, Value.includes, List.any_eq_true]
  constructor
  · rintro ⟨j, found, v, listed, equal⟩
    exact ⟨v, listed, j, found, equal⟩
  · rintro ⟨v, listed, j, found, equal⟩
    exact ⟨j, found, v, listed, equal⟩

theorem holds_notIn (vs : List Value) :
    holds ⟨path, .notIn, .list vs⟩ doc = vs.all fun v => holds ⟨path, .ne, v⟩ doc := by
  have complement : holds ⟨path, .notIn, .list vs⟩ doc = !holds ⟨path, .isIn, .list vs⟩ doc := rfl
  rw [complement, holds_isIn, List.not_any_eq_all_not]
  rfl

theorem holds_lte (v : Value) :
    holds ⟨path, .lte, v⟩ doc = (holds ⟨path, .lt, v⟩ doc || holds ⟨path, .eq, v⟩ doc) :=
  anyOrder_or_equal ⟨path, .lte, v⟩ (doc.valuesAt path) fun o => by cases o <;> rfl

theorem holds_gte (v : Value) :
    holds ⟨path, .gte, v⟩ doc = (holds ⟨path, .gt, v⟩ doc || holds ⟨path, .eq, v⟩ doc) :=
  anyOrder_or_equal ⟨path, .gte, v⟩ (doc.valuesAt path) fun o => by cases o <;> rfl

end Operators

/-- If nothing is found, only the negative comparisons hold. -/
theorem holds_of_absent {c : Comparison} {doc : Json} (absent : doc.valuesAt c.path = []) :
    c.holds doc = true ↔ c.op = .ne ∨ c.op = .notIn := by
  obtain ⟨path, op, v⟩ := c
  dsimp only at absent ⊢
  cases op with
  | regex ignoreCase =>
    have nothing : anyText ⟨path, .regex ignoreCase, v⟩ [] ignoreCase = false := by
      unfold anyText
      split
      · split <;> rfl
      · rfl
    simp [holds, absent, nothing]
  | _ => simp [holds, anyOrder, absent]

end Comparison

theorem FieldType.supports_equality (type : FieldType) :
    type.supports .eq = true ∧ type.supports .ne = true := by
  cases type <;> exact ⟨rfl, rfl⟩

theorem FieldType.supports_notIn (type : FieldType) : type.supports .notIn = type.supports .isIn := by
  cases type <;> rfl

theorem Operator.compareOp_negative (op : Operator) :
    op.compareOp = .ne ∨ op.compareOp = .notIn ↔ op = .ne ∨ op = .notIn := by
  cases op <;> simp [compareOp]

namespace Scope

variable {s : Scope} {path : List Text} {target : Target} {op : Operator}

theorem compileFilter_single (leads : s.resolve path = .ok target) (supported : target.type.supports op = true)
    (single : op.takesList = false) (whole : op.isPattern = false) (raw : Text) :
    s.compileFilter ⟨path, some op, .scalar raw⟩ = .ok ⟨target.path, op.compareOp, target.type.coerce raw⟩ := by
  refine compileFilter_eq_ok_iff.mpr ⟨target, _, leads, supported, ?_, rfl⟩
  refine compileValue_eq_ok_iff.mpr (Or.inr ⟨single, raw, rfl, if_neg ?_⟩)
  exact Bool.eq_false_iff.mp whole

theorem compileFilter_list (leads : s.resolve path = .ok target) (supported : target.type.supports op = true)
    (list : op.takesList = true) (value : RawValue) :
    s.compileFilter ⟨path, some op, value⟩ =
      .ok ⟨target.path, op.compareOp, .list (value.items.map target.type.coerce)⟩ :=
  compileFilter_eq_ok_iff.mpr
    ⟨target, _, leads, supported, compileValue_eq_ok_iff.mpr (Or.inl ⟨list, rfl⟩), rfl⟩

theorem path_and_op_of_compileFilter {f : Filter} {c : Comparison} (leads : s.resolve f.path = .ok target)
    (compiled : s.compileFilter f = .ok c) : c.path = target.path ∧ c.op = f.effectiveOperator.compareOp := by
  obtain ⟨_, _, same, _, _, rfl⟩ := compileFilter_eq_ok_iff.mp compiled
  cases leads.symm.trans same
  exact ⟨rfl, rfl⟩

/-- How the filters on a field come down to those for a single value, for which `eq` and `ne` give the comparisons. -/
structure Expands (s : Scope) (path : List Text) (target : Target) (eq ne : Text → Comparison) : Prop where
  equality : ∀ raw, s.compileFilter ⟨path, some .eq, .scalar raw⟩ = .ok (eq raw) ∧
    s.compileFilter ⟨path, some .ne, .scalar raw⟩ = .ok (ne raw) ∧ ∀ doc, (ne raw).holds doc = !(eq raw).holds doc
  membership : target.type.supports .isIn = true → ∀ value, ∃ isIn notIn,
    s.compileFilter ⟨path, some .isIn, value⟩ = .ok isIn ∧ s.compileFilter ⟨path, some .notIn, value⟩ = .ok notIn ∧
      ∀ doc, isIn.holds doc = value.items.any (fun raw => (eq raw).holds doc) ∧
        notIn.holds doc = value.items.all fun raw => (ne raw).holds doc
  ordering : ∀ op, op.isOrdering = true → target.type.supports op = true → ∀ raw, ∃ lt lte gt gte,
    s.compileFilter ⟨path, some .lt, .scalar raw⟩ = .ok lt ∧ s.compileFilter ⟨path, some .lte, .scalar raw⟩ = .ok lte ∧
      s.compileFilter ⟨path, some .gt, .scalar raw⟩ = .ok gt ∧
      s.compileFilter ⟨path, some .gte, .scalar raw⟩ = .ok gte ∧
      ∀ doc, lte.holds doc = (lt.holds doc || (eq raw).holds doc) ∧ gte.holds doc = (gt.holds doc || (eq raw).holds doc)
  absent : ∀ f c, f.path = path → s.compileFilter f = .ok c →
    ∀ doc, (∀ v, Json.Addresses target.path doc v → v = .null) →
      (c.holds doc = true ↔ f.effectiveOperator = .ne ∨ f.effectiveOperator = .notIn)

/-- The filters on a field agree: a list with its items one by one, a weak order with the strict one and equality. A
field that a document lacks, or has as null, satisfies only the filters that exclude values. -/
theorem expands_of_resolve (s : Scope) {path : List Text} {target : Target} (leads : s.resolve path = .ok target) :
    ∃ eq ne, s.Expands path target eq ne := by
  let compared (op : CompareOp) (raw : Text) : Comparison := ⟨target.path, op, target.type.coerce raw⟩
  obtain ⟨eqSupported, neSupported⟩ := target.type.supports_equality
  refine ⟨compared .eq, compared .ne,
    { equality := ?equality, membership := ?membership, ordering := ?ordering, absent := ?absent }⟩
  case equality =>
    intro raw
    exact ⟨compileFilter_single leads eqSupported rfl rfl raw, compileFilter_single leads neSupported rfl rfl raw,
      fun doc => Comparison.holds_ne target.path doc _⟩
  case membership =>
    intro isIn value
    have notIn : target.type.supports .notIn = true := target.type.supports_notIn.trans isIn
    refine ⟨_, _, compileFilter_list leads isIn rfl value, compileFilter_list leads notIn rfl value, fun doc => ?_⟩
    constructor
    · exact (Comparison.holds_isIn target.path doc _).trans List.any_map
    · exact (Comparison.holds_notIn target.path doc _).trans List.all_map
  case ordering =>
    intro op orders supported raw
    have ordered : target.type.isOrdered = true := (FieldType.supports_ordering orders).symm.trans supported
    have compiled {op : Operator} (orders : op.isOrdering = true) (single : op.takesList = false)
        (whole : op.isPattern = false) : s.compileFilter ⟨path, some op, .scalar raw⟩ = .ok (compared op.compareOp raw) :=
      compileFilter_single leads ((FieldType.supports_ordering orders).trans ordered) single whole raw
    exact ⟨_, _, _, _, compiled rfl rfl rfl, compiled rfl rfl rfl, compiled rfl rfl rfl, compiled rfl rfl rfl,
      fun doc => ⟨Comparison.holds_lte target.path doc _, Comparison.holds_gte target.path doc _⟩⟩
  case absent =>
    intro f c atPath compiled doc absent
    obtain ⟨samePath, sameOp⟩ := path_and_op_of_compileFilter (atPath ▸ leads) compiled
    have nothing : doc.valuesAt c.path = [] := by
      rw [samePath]
      exact Json.valuesAt_eq_nil_iff.mpr absent
    rw [Comparison.holds_of_absent nothing, sameOp]
    exact f.effectiveOperator.compareOp_negative

/-- A list in which one item is no number and a weak order, on a document with an array of numbers and on one that has
only null. -/
theorem expands_of_resolve_sample :
    let path : List Text := ["votes".toList]
    let target : Target := ⟨0, ⟨"votes".toList, .int, none⟩, "votes".toList, path, .int⟩
    let doc : Json := .object [("votes".toList, .array [.null, .int 3])]
    let empty : Json := .object [("votes".toList, .array [.null])]
    sample.resolve path = .ok target ∧ ∃ eq ne, sample.Expands path target eq ne ∧
      (∃ isIn, sample.compileFilter ⟨path, some .isIn, .list ["many".toList, "3".toList]⟩ = .ok isIn ∧
        isIn.holds doc = true) ∧
      (∃ lte, sample.compileFilter ⟨path, some .lte, .scalar "3".toList⟩ = .ok lte ∧ lte.holds doc = true) ∧
      ∀ op value c, sample.compileFilter ⟨path, some op, value⟩ = .ok c →
        (c.holds empty = true ↔ op = .ne ∨ op = .notIn) := by
  intro path target doc empty
  have leads : sample.resolve path = .ok target := rfl
  obtain ⟨eq, ne, expands⟩ := expands_of_resolve sample leads
  have three : eq "3".toList = ⟨path, .eq, .int 3⟩ := (Except.ok.inj (expands.equality "3".toList).1).symm
  have equal : (eq "3".toList).holds doc = true := by
    rw [three]
    decide +kernel
  refine ⟨leads, eq, ne, expands, ?_, ?_, fun op value c compiled => ?_⟩
  · obtain ⟨isIn, _, compiled, _, agree⟩ := expands.membership rfl (.list ["many".toList, "3".toList])
    refine ⟨isIn, compiled, (agree doc).1.trans ?_⟩
    exact List.any_eq_true.mpr ⟨_, .tail _ (.head _), equal⟩
  · obtain ⟨_, lte, _, _, _, compiled, _, _, agree⟩ := expands.ordering .lt rfl rfl "3".toList
    refine ⟨lte, compiled, (agree doc).1.trans ?_⟩
    rw [equal, Bool.or_true]
  · exact expands.absent _ c rfl compiled empty (Json.valuesAt_eq_nil_iff.mp rfl)

end Scope

end IssueQuery
