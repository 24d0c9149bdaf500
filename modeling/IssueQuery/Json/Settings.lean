import IssueQuery.Formula.OfText
import IssueQuery.Json.Decoding
import IssueQuery.Settings

namespace IssueQuery

namespace Direction

def toJson (d : Direction) : Json := .ofString d.name

def ofJson? (j : Json) : Option Direction := j.name? >>= ofName?

end Direction

namespace Mode

def name : Mode → String
  | .filter => "filter"
  | .search => "search"

def ofName? (t : Text) : Option Mode := [filter, search].find? fun m => m.name.toList == t

def toJson (m : Mode) : Json := .ofString m.name

def ofJson? (j : Json) : Option Mode := j.name? >>= ofName?

end Mode

namespace Settings

def toJson (s : Settings) : Json :=
  .ofMembers [("default_sort_field", .string s.defaultSortField),
    ("default_sort_direction", s.defaultSortDirection.toJson), ("max_depth", .int s.maxDepth)]

/-- Reads a depth, which is an integer of 64 bits without a sign. -/
def depth? : Json → Option Nat
  | .int n => if 0 ≤ n ∧ n < (1 <<< 64 : Nat) then some n.toNat else none
  | _ => none

/-- Reads settings; those that are missing keep their defaults. -/
def ofJson? (j : Json) : Option Settings := do
  let members ← j.members? ["default_sort_field", "default_sort_direction", "max_depth"]
  let defaults : Settings := {}
  let field ← Json.withDefault? defaults.defaultSortField Json.text?
    (Json.lookup? "default_sort_field".toList members)
  let direction ← Json.withDefault? defaults.defaultSortDirection Direction.ofJson?
    (Json.lookup? "default_sort_direction".toList members)
  let maxDepth ← Json.withDefault? defaults.maxDepth depth? (Json.lookup? "max_depth".toList members)
  return ⟨field, direction, maxDepth⟩

end Settings

end IssueQuery
