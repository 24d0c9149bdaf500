import IssueQuery.Formula.OfTokens
import IssueQuery.Token.Balance
import IssueQuery.Token.Layout

namespace IssueQuery

/-- Which formulas a query may spell: a filter may spell any, a search has no `or`. -/
inductive Mode where
  | filter | search
  deriving DecidableEq, Repr

namespace Formula

/-- Refuses what the mode does not allow. -/
def checkMode (mode : Mode) (f : Option (Formula Clause)) : Except QueryError (Option (Formula Clause)) :=
  if mode = .search ∧ f.any containsOr then .error (.operatorNotSupported .or) else .ok f

/-- The formula that a query spells, or nothing if it has no filters. A fault of the text comes before
one of the mode. -/
def ofText? (mode : Mode) (maxDepth : Nat) (query : Text) : Except QueryError (Option (Formula Clause)) := do
  checkBrackets query
  let tokens ← tokenize query
  let f ← ofTokens? maxDepth tokens
  checkMode mode f

end Formula

end IssueQuery
