import IssueQuery.Error
import IssueQuery.Schema

namespace IssueQuery

/-- The schema together with the fields that the author of a query may use; without a list of them,
all. -/
structure Scope where
  schema : Schema
  permitted : Option (List Text)

namespace Scope

/-- Whether the author of a query may use this field. -/
def allows (s : Scope) (f : FieldDef) : Bool := s.permitted.all f.isPermitted

/-- Refuses what the author of a query may not use. -/
def permit (s : Scope) (t : Target) : Except QueryError Target :=
  if s.allows t.field then .ok t else .error (.fieldNotPermitted t.name)

/-- What the path of a filter leads to. -/
def resolve (s : Scope) (path : List Text) : Except QueryError Target :=
  match s.schema.resolve? path with
  | some t => s.permit t
  | none => .error (.unknownField (Filter.pathText path))

/-- What the path of a sort key leads to. -/
def resolveSort (s : Scope) (path : List Text) : Except QueryError Target :=
  match s.schema.resolve? path with
  | some t => s.permit t
  | none => .error (.unknownSortField (Filter.pathText path))

end Scope

end IssueQuery
