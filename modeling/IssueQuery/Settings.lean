import IssueQuery.Text.Basic

namespace IssueQuery

inductive Direction where
  | asc | desc
  deriving DecidableEq, Repr

namespace Direction

def name : Direction → String
  | .asc => "asc"
  | .desc => "desc"

def ofName? (t : Text) : Option Direction := [asc, desc].find? fun d => d.name.toList == t

/-- What stands before a descending sort key. -/
def mark : Direction → Text
  | .asc => []
  | .desc => ['-']

end Direction

/-- The sort of a query that names none, and how deep brackets and `not`s may be nested. -/
structure Settings where
  defaultSortField : Text := "updated_at".toList
  defaultSortDirection : Direction := .desc
  maxDepth : Nat := 200
  deriving DecidableEq, Repr

end IssueQuery
