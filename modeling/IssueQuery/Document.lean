import IssueQuery.Json

namespace IssueQuery.Json

/-- The members of this name of an object, or of the objects in an array. -/
def children (name : Text) : Json → List Json
  | .object members => (lookup? name members).toList
  | .array items => items.filterMap fun
    | .object members => lookup? name members
    | _ => none
  | _ => []

def isNull : Json → Bool
  | .null => true
  | _ => false

/-- A value itself, or the elements of an array, without nulls. -/
def elements : Json → List Json
  | .array items => items.filter fun j => !j.isNull
  | .null => []
  | j => [j]

/-- The values that a path leads to in a document, through arrays on the way. -/
def valuesAt (path : List Text) (doc : Json) : List Json :=
  (path.foldl (fun found name => found.flatMap (children name)) [doc]).flatMap elements

end IssueQuery.Json
