import IssueQuery.Compile
import IssueQuery.Draft
import IssueQuery.Draft.Wording
import IssueQuery.Search

namespace IssueQuery

/-- A reported filter with its text and the place in the schema of the field that it uses. -/
structure FilterClause where
  filter : ReportedFilter
  text : Text
  index : Option Nat

/-- A reported sort key with its text. -/
structure SortClause where
  sort : ReportedSort
  text : Text

def Target.reportedSort (t : Target) (direction : Direction) : ReportedSort :=
  ⟨t.name, direction, some t.type.label, t.field.customId⟩

def missingValue (name : Text) : QueryError := .invalidExpression name 0 .missingValue

namespace Scope

/-- Checks a filter and writes it anew. -/
def filterClause (s : Scope) (f : Filter) : Except QueryError FilterClause :=
  if f.value.items = [] then .error (missingValue (Filter.pathText f.path))
  else do
    let _ ← s.compileFilter f
    let target ← s.resolve f.path
    let value := f.value.normalizedFor f.effectiveOperator
    let field ← Filter.renderField target.field f.path.tail
    let items ← Filter.renderValue value
    return {
      filter := .field target.name f.operator value target.type.label target.field.customId
      text := field ++ Filter.renderOperator f.operator ++ ':' :: ' ' :: items
      index := some target.index }

/-- Checks a hashtag and writes it under its declared name. -/
def hashtagClause (s : Scope) (name : Text) : Except QueryError FilterClause := do
  let (h, f) ← s.expandHashtag name
  let _ ← s.compileFilter f
  if h.name ≠ [] ∧ h.name.all isHashtagChar then
    return {
      filter := .hashtag h.name
      text := '#' :: h.name
      index := (s.schema.resolve? (Filter.namePath h.field)).map Target.index }
  else .error (.unquotableValue h.name)

/-- Checks a sort key and writes it anew. -/
def sortClause (s : Scope) (path : List Text) (direction : Direction) : Except QueryError SortClause := do
  let target ← s.resolveSort path
  let field ← Filter.renderField target.field path.tail
  return ⟨target.reportedSort direction, direction.mark ++ field⟩

/-- The sort that is reported for a query that names none. -/
def defaultSort (s : Scope) (settings : Settings) : ReportedSort :=
  let direction := settings.defaultSortDirection
  match s.schema.resolve? (Filter.namePath settings.defaultSortField) with
  | some target => target.reportedSort direction
  | none => ⟨settings.defaultSortField, direction, none, none⟩

/-- Whether the sort clause can be left out: there is none, or its only key has the name and the
direction of the default sort. -/
def isDefaultSort (s : Scope) (settings : Settings) : List SortClause → Bool
  | [] => true
  | [only] =>
    only.sort.name == (s.defaultSort settings).name && only.sort.direction == (s.defaultSort settings).direction
  | _ => false

/-- The filters joined by `and`, then the sort clause unless it can be left out. -/
def queryText (s : Scope) (settings : Settings) (filters : List FilterClause) (sorts : List SortClause) :
    Text :=
  let filterText := Text.join " and ".toList (filters.map FilterClause.text)
  if s.isDefaultSort settings sorts then filterText
  else
    filterText ++ (if filterText = [] then [] else [' ']) ++ "sort by: ".toList ++
      Text.join [',', ' '] (sorts.map SortClause.text)

/-- The fields that the author of the query may use and no filter uses. -/
def availableFields (s : Scope) (filters : List FilterClause) : List AvailableField :=
  (s.schema.fields.zipIdx.filter fun (f, i) =>
    s.allows f && !filters.any fun clause => clause.index == some i).map fun (f, _) =>
      ⟨f.name, f.type.label, f.customId⟩

def report (s : Scope) (settings : Settings) (filters : List FilterClause) (sorts : List SortClause) : Report :=
  { query := s.queryText settings filters sorts
    filters := filters.map FilterClause.filter
    sortBy := if sorts.isEmpty then [s.defaultSort settings] else sorts.map SortClause.sort
    availableFields := s.availableFields filters }

/-- The path that an id or a name stands for. -/
def draftPath (customId : Option Text) (name : Text) : List Text :=
  match customId with
  | some id => [id]
  | none => Filter.namePath name

/-- Checks an edited filter on a field and writes it as text. An id has to be that of a custom field. -/
def draftFieldClause (s : Scope) (f : DraftFilter) : Except QueryError FilterClause := do
  if let some id := f.customId then
    if (s.schema.customField? id).isNone then .error (.unknownField id)
  match f.value with
  | some value => s.filterClause ⟨draftPath f.customId f.name, f.operator, value⟩
  | none => .error (missingValue f.name)

/-- Checks an edited filter and writes it as text. -/
def draftFilterClause (s : Scope) (f : DraftFilter) : Except QueryError FilterClause :=
  match f.name, f.customId with
  | '#' :: name, none => s.hashtagClause name
  | _, _ => s.draftFieldClause f

def draftFilterClauses (s : Scope) : List DraftFilter → Except QueryError (List FilterClause)
  | [] => .ok []
  | f :: fs => do
    let clause ← s.draftFilterClause f
    return clause :: (← s.draftFilterClauses fs)

def draftSortClauses (s : Scope) : List DraftSort → Except QueryError (List SortClause)
  | [] => .ok []
  | k :: ks => do
    let clause ← s.sortClause (draftPath k.customId k.name) k.direction
    return clause :: (← s.draftSortClauses ks)

/-- Checks an edited query and writes it as text. -/
def reportDraft (s : Scope) (settings : Settings) (d : Draft) : Except QueryError Report := do
  let filters ← s.draftFilterClauses d.filters
  let sorts ← s.draftSortClauses d.sortBy
  return s.report settings filters sorts

def textFilterClauses (s : Scope) : List Clause → Except QueryError (List FilterClause)
  | [] => .ok []
  | c :: cs => do
    let clause ← match ← Condition.ofText? c.start c.text with
      | .field f => s.filterClause f
      | .hashtag name => s.hashtagClause name
    return clause :: (← s.textFilterClauses cs)

/-- The clauses of a formula that is a conjunction. A `not` is refused before an `or`. -/
def conjunction (f : Option (Formula Clause)) : Except QueryError (List Clause) :=
  match f with
  | none => .ok []
  | some f =>
    if f.containsNot then .error (.operatorNotSupported .not)
    else
      match f.conjuncts? with
      | some cs => .ok cs
      | none => .error (.operatorNotSupported .or)

/-- Reads a query text that is a conjunction of filters and writes it anew. -/
def reportText (s : Scope) (settings : Settings) (t : Text) : Except QueryError Report := do
  let (filter, clause) := Search.split t
  let f ← Formula.ofText? .search settings.maxDepth filter
  let filters ← s.textFilterClauses (← conjunction f)
  let sorts ← match clause with
    | some clause => readSortClause s.sortClause clause
    | none => .ok []
  return s.report settings filters sorts

end Scope

end IssueQuery
