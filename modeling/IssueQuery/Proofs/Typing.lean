import IssueQuery.Proofs.Agreement
import IssueQuery.Proofs.Embedding
import IssueQuery.Proofs.NormalForm

namespace IssueQuery

namespace Value

def isScalar : Value → Bool
  | .list _ => false
  | _ => true

end Value

/-- The operators that ask for an order. -/
def Operator.isOrdering : Operator → Bool
  | .lt | .lte | .gt | .gte => true
  | _ => false

namespace FieldType

/-- The types of which one value may come before another. -/
def isOrdered : FieldType → Bool
  | .int | .float | .datetime => true
  | _ => false

/-- What a text may be read as for a field of a type. Only what has an order may also stay text; a truth value is
found in every text. -/
inductive Reads (raw : Text) : FieldType → Value → Prop
  | string : Reads raw .string (.string raw)
  | object (fields : List FieldDef) : Reads raw (.object fields) (.string raw)
  | int (n : Int) : Reads raw .int (.int n)
  | float (x : Binary64) : Reads raw .float (.float x)
  | bool (b : Bool) : Reads raw .bool (.bool b)
  | instant (t : Instant) : Reads raw .datetime (.instant t)
  | unread {type : FieldType} : type.isOrdered = true → Reads raw type (.string raw)
  | element {type : FieldType} {v : Value} : Reads raw type v → Reads raw (.list type) v

theorem Reads.isScalar {raw : Text} {type : FieldType} {v : Value} (reads : type.Reads raw v) : v.isScalar = true := by
  induction reads with
  | element _ ih => exact ih
  | _ => rfl

theorem reads_coerce (raw : Text) : (type : FieldType) → type.Reads raw (type.coerce raw)
  | .string => .string
  | .object fields => .object fields
  | .bool => .bool _
  | .int => by
    rw [coerce, Value.readInt]
    cases readInt64? (Text.trim raw) with
    | none => exact .unread rfl
    | some n => exact .int n
  | .float => by
    rw [coerce, Value.readFloat]
    cases readBinary64? (Text.trim raw) with
    | none => exact .unread rfl
    | some x => exact .float x
  | .datetime => by
    rw [coerce, Value.readInstant]
    cases Instant.ofText? raw with
    | none => exact .unread rfl
    | some t => exact .instant t
  | .list element => by
    rw [coerce]
    exact .element (reads_coerce raw element)

theorem forall₂_reads_coerce (type : FieldType) (raws : List Text) :
    List.Forall₂ type.Reads raws (raws.map type.coerce) := by
  rw [List.forall₂_map_right_iff, List.forall₂_same]
  exact fun raw _ => type.reads_coerce raw

section Support

variable {type : FieldType} {op : Operator}

theorem eq_string_of_supports (supported : type.supports op = true) (looks : op.isPattern = true) :
    type = .string := by
  cases op with
  | contains | icontains | startsWith | endsWith =>
    cases type with
    | string => rfl
    | _ => cases supported
  | _ => cases looks

theorem supports_ordering (orders : op.isOrdering = true) : type.supports op = type.isOrdered := by
  cases op with
  | lt | lte | gt | gte => cases type <;> rfl
  | _ => cases orders

end Support

end FieldType

/-- The rules by which a comparison is well typed for the field that it is about. Its value has been read from the items
of a filter as the type of the field, but for patterns, which are text. -/
inductive Comparison.WellTyped (target : Target) (items : List Text) : Comparison → Prop
  | equality {op : CompareOp} {raw : Text} {v : Value} :
      op = .eq ∨ op = .ne → items = [raw] → v.isScalar = true → target.type.Reads raw v →
      WellTyped target items ⟨target.path, op, v⟩
  | membership {op : CompareOp} {vs : List Value} :
      op = .isIn ∨ op = .notIn → vs ≠ [] → (∀ v ∈ vs, v.isScalar = true) →
      List.Forall₂ target.type.Reads items vs → WellTyped target items ⟨target.path, op, .list vs⟩
  | ordering {op : CompareOp} {raw : Text} {v : Value} :
      op = .lt ∨ op = .lte ∨ op = .gt ∨ op = .gte → target.type.isOrdered = true → items = [raw] →
      v.isScalar = true → target.type.Reads raw v → WellTyped target items ⟨target.path, op, v⟩
  | pattern {ignoreCase : Bool} {t : Text} :
      target.type = .string → WellTyped target items ⟨target.path, .regex ignoreCase, .string t⟩

namespace Scope

variable {s : Scope}

theorem wellTyped_of_compileFilter {f : Filter} {c : Comparison} (nonempty : f.value.items ≠ [])
    (compiled : s.compileFilter f = .ok c) :
    ∃ target, s.resolve f.path = .ok target ∧ c.WellTyped target f.value.items := by
  obtain ⟨target, v, resolved, supported, fits, rfl⟩ := compileFilter_eq_ok_iff.mp compiled
  refine ⟨target, resolved, ?_⟩
  rcases compileValue_eq_ok_iff.mp fits with ⟨list, rfl⟩ | ⟨single, item, only, rfl⟩
  · have reads := target.type.forall₂_reads_coerce f.value.items
    have scalars : ∀ v ∈ f.value.items.map target.type.coerce, v.isScalar = true := by
      intro v member
      obtain ⟨raw, _, rfl⟩ := List.mem_map.mp member
      exact (target.type.reads_coerce raw).isScalar
    have some : f.value.items.map target.type.coerce ≠ [] := by rwa [Ne, List.map_eq_nil_iff]
    cases operator : f.effectiveOperator with
    | isIn => exact .membership (Or.inl rfl) some scalars reads
    | notIn => exact .membership (Or.inr rfl) some scalars reads
    | _ =>
      rw [operator] at list
      cases list
  · have reads := target.type.reads_coerce item
    have scalar := reads.isScalar
    cases operator : f.effectiveOperator with
    | eq => exact .equality (Or.inl rfl) only scalar reads
    | ne => exact .equality (Or.inr rfl) only scalar reads
    | isIn | notIn =>
      rw [operator] at single
      cases single
    | lt | lte | gt | gte =>
      rw [operator, FieldType.supports_ordering rfl] at supported
      exact .ordering (by simp [Operator.compareOp]) supported only scalar reads
    | contains | icontains | startsWith | endsWith =>
      rw [operator] at supported
      exact .pattern (FieldType.eq_string_of_supports supported rfl)

theorem items_ne_nil_of_filterOf {c : Clause} {f : Filter} (stands : s.filterOf c = .ok f) : f.value.items ≠ [] := by
  obtain ⟨condition, read, expanded⟩ := bind_eq_ok_iff.mp stands
  cases condition with
  | field f =>
    cases expanded
    exact Condition.items_ne_nil (Condition.ofText?_eq_ok_iff.mp read)
  | hashtag name =>
    obtain ⟨⟨h, f⟩, found, rfl⟩ := map_eq_ok_iff.mp expanded
    obtain ⟨_, rfl⟩ := expandHashtag_eq_ok_iff.mp found
    exact List.cons_ne_nil _ _

/-- Every comparison of a compiled query is well typed for a field that the author of the query may use: the one that
its clause names, or the hashtag that stands in its place. -/
theorem wellTyped_of_compileQuery (s : Scope) {mode : Mode} {maxDepth : Nat} {query : Text} {p : Predicate}
    (compiled : s.compileQuery mode maxDepth query = .ok (some p)) :
    ∃ f, Formula.ofText? mode maxDepth query = .ok (some f) ∧
      List.Forall₂ (fun clause c => ∃ filter target, s.filterOf clause = .ok filter ∧
        s.schema.resolve? filter.path = some target ∧ s.allows target.field = true ∧
        c.WellTyped target filter.value.items) f.leaves p.comparisons := by
  obtain ⟨f, read, compiled⟩ := compileQuery_eq_some_iff.mp compiled
  refine ⟨f, read, (mapM_eq_ok_iff.mp (comparisons_of_compile compiled)).imp fun clause c compiled => ?_⟩
  rw [compileClause_eq_filterOf] at compiled
  obtain ⟨filter, stands, compiled⟩ := bind_eq_ok_iff.mp compiled
  obtain ⟨target, resolved, typed⟩ := wellTyped_of_compileFilter (items_ne_nil_of_filterOf stands) compiled
  obtain ⟨leads, allowed⟩ := resolve_eq_ok_iff.mp resolved
  exact ⟨filter, target, stands, leads, allowed, typed⟩

set_option maxRecDepth 4000 in
/-- A hashtag, and a list of values for numbers in a list that is a part of the objects in a list. One value is no
number. -/
theorem wellTyped_of_compileQuery_nested :
    let ages : FieldDef := ⟨"ages".toList, .list .int, none⟩
    let s : Scope :=
      { schema :=
          { fields := [⟨"votes".toList, .int, none⟩, ⟨"watchers".toList, .list (.object [ages]), none⟩]
            hashtags := [⟨"popular".toList, "votes".toList, some .gte, "10".toList⟩] }
        permitted := none }
    let query : Text := "#popular or not watchers__ages___in: 7, old".toList
    let p : Predicate := .or [.compare ⟨["votes".toList], .gte, .int 10⟩,
      .not ⟨["watchers".toList, "ages".toList], .isIn, .list [.int 7, .string "old".toList]⟩]
    s.compileQuery .filter 200 query = .ok (some p) ∧
      ∃ f, Formula.ofText? .filter 200 query = .ok (some f) ∧
        List.Forall₂ (fun clause c => ∃ filter target, s.filterOf clause = .ok filter ∧
          s.schema.resolve? filter.path = some target ∧ s.allows target.field = true ∧
          c.WellTyped target filter.value.items) f.leaves p.comparisons := by
  intro ages s query p
  have compiled : s.compileQuery .filter 200 "#popular or not watchers__ages___in: 7, old".toList = .ok (some p) := by
    cbv
  exact ⟨compiled, wellTyped_of_compileQuery s compiled⟩

end Scope

end IssueQuery
