import IssueQuery.Text.Basic

namespace IssueQuery

/-- How a filter compares a field with its value. -/
inductive Operator where
  | eq | ne | isIn | notIn | lt | lte | gt | gte | contains | icontains | startsWith | endsWith
  deriving DecidableEq, Repr

namespace Operator

def all : List Operator :=
  [.eq, .ne, .isIn, .notIn, .lt, .lte, .gt, .gte, .contains, .icontains, .startsWith, .endsWith]

/-- The name written after `___` in a filter, and the only spelling exchanged with other programs. -/
def name : Operator → String
  | .eq => "eq"
  | .ne => "ne"
  | .isIn => "in"
  | .notIn => "nin"
  | .lt => "lt"
  | .lte => "lte"
  | .gt => "gt"
  | .gte => "gte"
  | .contains => "contains"
  | .icontains => "icontains"
  | .startsWith => "startswith"
  | .endsWith => "endswith"

/-- The operator of exactly this name. -/
def ofName? (t : Text) : Option Operator := all.find? fun op => op.name.toList == t

/-- The operator of this name in any case of ASCII letters. -/
def ofText? (t : Text) : Option Operator := ofName? (t.map Char.toLower)

/-- Only membership compares with a list; every other operator takes one value. -/
def takesList : Operator → Bool
  | .isIn | .notIn => true
  | _ => false

/-- The operators that look into the text of a field. -/
def isPattern : Operator → Bool
  | .contains | .icontains | .startsWith | .endsWith => true
  | _ => false

/-- The operator of a filter that names none. -/
def default : Operator := .eq

end Operator

end IssueQuery
