import IssueQuery.Error

namespace IssueQuery

/-- Reads on at `position` with `depth` brackets open. -/
def balanceFrom (quoted : Bool) (depth position : Nat) : Text → Except QueryError Unit
  | [] => if depth = 0 then .ok () else .error (.missingBracket position)
  | c :: t =>
    if quoted then balanceFrom (Text.quoteStep quoted c) depth (position + 1) t
    else if c = '(' then balanceFrom quoted (depth + 1) (position + 1) t
    else if c = ')' then
      match depth with
      | 0 => .error (.unmatchedBracket position)
      | d + 1 => balanceFrom quoted d (position + 1) t
    else balanceFrom (Text.quoteStep quoted c) depth (position + 1) t

/-- Every closing bracket has its opening bracket before it and every opening bracket is closed.
Brackets inside double quotes do not count. -/
def checkBrackets (query : Text) : Except QueryError Unit := balanceFrom false 0 0 query

end IssueQuery
