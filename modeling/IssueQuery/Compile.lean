import IssueQuery.Filter.Reading
import IssueQuery.Formula.OfText
import IssueQuery.Predicate
import IssueQuery.Scope
import IssueQuery.Settings

namespace IssueQuery

/-- The comparison that an operator makes. -/
def Operator.compareOp : Operator → CompareOp
  | .eq => .eq
  | .ne => .ne
  | .isIn => .isIn
  | .notIn => .notIn
  | .lt => .lt
  | .lte => .lte
  | .gt => .gt
  | .gte => .gte
  | .contains | .startsWith | .endsWith => .regex false
  | .icontains => .regex true

/-- The pattern that a pattern operator looks for. -/
def Operator.pattern (op : Operator) (raw : Text) : Pattern := ⟨op = .startsWith, raw, op = .endsWith⟩

namespace Scope

/-- The value that a filter on `target` compares with. -/
def compileValue (target : Target) (op : Operator) (raw : RawValue) : Except QueryError Value :=
  if op.takesList then .ok (.list (raw.items.map target.type.coerce))
  else
    match raw.items with
    | [item] => .ok (if op.isPattern then .string (op.pattern item).render else target.type.coerce item)
    | _ => .error (.multipleValues target.name op)

/-- The comparison that a filter makes. -/
def compileFilter (s : Scope) (f : Filter) : Except QueryError Comparison := do
  let target ← s.resolve f.path
  let op := f.effectiveOperator
  if target.type.supports op then
    let value ← compileValue target op f.value
    return ⟨target.path, op.compareOp, value⟩
  else .error (.invalidOperatorForField target.name op target.type.operators)

/-- The hashtag of this name in any case, and the filter it is short for. -/
def expandHashtag (s : Scope) (name : Text) : Except QueryError (Hashtag × Filter) :=
  match s.schema.hashtag? name with
  | some h => .ok (h, ⟨Filter.splitPath h.field, h.operator, .scalar h.value⟩)
  | none => .error (.unknownField ('#' :: name))

def compileHashtag (s : Scope) (name : Text) : Except QueryError Comparison := do
  let (_, f) ← s.expandHashtag name
  s.compileFilter f

def compileClause (s : Scope) (c : Clause) : Except QueryError Comparison := do
  match ← Condition.ofText? c.start c.text with
  | .field f => s.compileFilter f
  | .hashtag name => s.compileHashtag name

/-- The predicate of a formula, or of its negation. Negation is pushed inwards: a negated conjunction
becomes a disjunction, a negated disjunction keeps its parts as they are under `nor`. -/
def compile (s : Scope) (negate : Bool) : Formula Clause → Except QueryError Predicate
  | .leaf c => do
    let c ← s.compileClause c
    return if negate then .not c else .compare c
  | .and l r => do
    let p ← s.compile negate l
    let q ← s.compile negate r
    return if negate then p.disj q else p.conj q
  | .or l r => do
    let p ← s.compile false l
    let q ← s.compile false r
    return if negate then p.neither q else p.disj q
  | .not f => s.compile (!negate) f

/-- The predicate of a query, or nothing if it has no filters. -/
def compileQuery (s : Scope) (mode : Mode) (maxDepth : Nat) (query : Text) :
    Except QueryError (Option Predicate) := do
  match ← Formula.ofText? mode maxDepth query with
  | some f => some <$> s.compile false f
  | none => return none

end Scope

end IssueQuery
