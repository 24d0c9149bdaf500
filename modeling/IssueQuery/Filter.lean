import IssueQuery.Operator

namespace IssueQuery

/-- The value of a filter as written: one item, or a list of items. -/
inductive RawValue where
  | scalar (item : Text)
  | list (items : List Text)
  deriving DecidableEq, Repr

namespace RawValue

/-- A single item is a scalar. -/
def ofItems : List Text → RawValue
  | [item] => .scalar item
  | items => .list items

def items : RawValue → List Text
  | .scalar item => [item]
  | .list items => items

def isList : RawValue → Bool
  | .scalar _ => false
  | .list _ => true

/-- The form in which an operator shows its value: a list if it takes lists, else a scalar if there is
one item. -/
def normalizedFor (op : Operator) (v : RawValue) : RawValue :=
  if op.takesList then .list v.items else
    match v with
    | .list [item] => .scalar item
    | v => v

end RawValue

/-- A filter on a field, which is named by a path. Without an operator it asks for equality. -/
structure Filter where
  path : List Text
  operator : Option Operator
  value : RawValue
  deriving DecidableEq, Repr

namespace Filter

def effectiveOperator (f : Filter) : Operator := f.operator.getD .default

/-- The mark between the segments of a path. -/
def pathSeparator : Text := ['_', '_']

/-- The mark in front of an operator. -/
def operatorMark : Text := ['_', '_', '_']

/-- A path as it is written in a query. -/
def pathText (path : List Text) : Text := Text.join pathSeparator path

end Filter

/-- What one clause of a query asks for: a filter on a field, or a hashtag. -/
inductive Condition where
  | field (filter : Filter)
  | hashtag (name : Text)
  deriving DecidableEq, Repr

end IssueQuery
