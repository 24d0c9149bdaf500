import IssueQuery.Filter.Reading
import IssueQuery.Scope
import IssueQuery.Settings

namespace IssueQuery

/-- A field to sort by: its name in queries and its path in documents. -/
structure SortKey where
  field : Text
  path : List Text
  direction : Direction
  deriving DecidableEq, Repr

/-- Cuts text at the commas outside double quotes, given whether it starts quoted. There is always one
part more than there are such commas. -/
def splitCommas (quoted : Bool) : Text → List Text
  | [] => [[]]
  | c :: t =>
    if c = ',' ∧ quoted = false then [] :: splitCommas quoted t
    else Text.consHead c (splitCommas (Text.quoteStep quoted c) t)

/-- Reads the direction of a sort key off its front. -/
def Direction.split : Text → Direction × Text
  | '-' :: t => (.desc, Text.trimStart t)
  | t => (.asc, t)

/-- Reads sort keys, the first of which starts at `position`, and gives each to `resolve`. Blank ones
are left out, and a fault in one is reported where it starts. -/
def readSortItems {α : Type} (resolve : List Text → Direction → Except QueryError α) (position : Nat) :
    List Text → Except QueryError (List α)
  | [] => .ok []
  | item :: items =>
    let next := position + item.length + 1
    if Text.trim item = [] then readSortItems resolve next items
    else
      let (direction, name) := Direction.split (Text.trim item)
      match Filter.readPath name with
      | .error fault => .error (.invalidExpression (Text.trim item) position fault)
      | .ok path => do
        let a ← resolve path direction
        return a :: (← readSortItems resolve next items)

/-- Reads the sort keys of a sort clause, which commas separate. -/
def readSortClause {α : Type} (resolve : List Text → Direction → Except QueryError α) (t : Text) :
    Except QueryError (List α) :=
  readSortItems resolve 0 (splitCommas false t)

namespace Scope

def sortKey (s : Scope) (path : List Text) (direction : Direction) : Except QueryError SortKey := do
  let target ← s.resolveSort path
  return ⟨target.name, target.path, direction⟩

/-- The sort keys of a sort clause. -/
def parseSort (s : Scope) (t : Text) : Except QueryError (List SortKey) := readSortClause s.sortKey t

end Scope

/-- The sort key of queries that name none. It is open to everyone, and a field that the schema does
not have is taken as written. -/
def Schema.defaultSortKey (s : Schema) (settings : Settings) : SortKey :=
  let path := Filter.namePath settings.defaultSortField
  match s.resolve? path with
  | some target => ⟨target.name, target.path, settings.defaultSortDirection⟩
  | none => ⟨settings.defaultSortField, path, settings.defaultSortDirection⟩

end IssueQuery
