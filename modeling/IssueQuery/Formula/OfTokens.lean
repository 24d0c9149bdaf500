import IssueQuery.Error
import IssueQuery.Formula

namespace IssueQuery

/-- The text of one filter with the positions of its first and last character. -/
structure Clause where
  text : Text
  start : Nat
  stop : Nat
  deriving DecidableEq, Repr

namespace Formula

/-- What stands before an operand that is still to come: the left side of a pending `or`, the left
side of a pending `and`, and the number of `not`s in front of the operand. -/
structure Pending where
  disjunct : Option (Formula Clause)
  conjunct : Option (Formula Clause)
  negations : Nat
  deriving DecidableEq, Repr

namespace Pending

def empty : Pending := ⟨none, none, 0⟩

/-- The conjunction that ends with the operand. Each `not` negates the operand alone. -/
def conjoin (p : Pending) (operand : Formula Clause) : Formula Clause :=
  let negated := p.negations.repeat .not operand
  match p.conjunct with
  | none => negated
  | some left => .and left negated

end Pending

/-- Extends a disjunction by its next member. -/
def disjoin (left : Option (Formula Clause)) (right : Formula Clause) : Formula Clause :=
  match left with
  | none => right
  | some left => .or left right

/-- The groups that are open, innermost first, each with what stands before its opening bracket. -/
abbrev Groups := List Pending

/-- How many brackets and `not`s enclose the innermost group. -/
def enclosing : Groups → Nat
  | [] => 0
  | g :: outer => g.negations + 1 + enclosing outer

/-- How many brackets and `not`s enclose the operand to come. -/
def nesting (p : Pending) (groups : Groups) : Nat := p.negations + enclosing groups

/-- Where reading stands between two tokens. -/
inductive Reading where
  | before (p : Pending) (groups : Groups)
  | after (disjunct : Option (Formula Clause)) (conjunction : Formula Clause) (groups : Groups)
  deriving DecidableEq, Repr

namespace Reading

/-- The operand of `p` has been read. -/
def operand (p : Pending) (groups : Groups) (f : Formula Clause) : Reading :=
  .after p.disjunct (p.conjoin f) groups

/-- Reads one token; `isLast` tells that no token follows. -/
def step (maxDepth : Nat) (isLast : Bool) (t : Token) : Reading → Except QueryError Reading
  | .before p groups =>
    match t.kind with
    | .expression => .ok (operand p groups (.leaf ⟨t.text, t.start, t.stop⟩))
    | .not =>
      if isLast then .error (.unexpectedEnd t.text t.start)
      else if maxDepth ≤ nesting p groups then .error (.tooDeeplyNested maxDepth)
      else .ok (.before { p with negations := p.negations + 1 } groups)
    | .openBracket =>
      if maxDepth ≤ nesting p groups then .error (.tooDeeplyNested maxDepth)
      else .ok (.before .empty (p :: groups))
    | _ => .error (.unexpectedToken t.text t.start)
  | .after disjunct conjunction groups =>
    match t.kind, groups with
    | .and, _ => .ok (.before ⟨disjunct, some conjunction, 0⟩ groups)
    | .or, _ => .ok (.before ⟨some (disjoin disjunct conjunction), none, 0⟩ groups)
    | .closeBracket, p :: outer => .ok (operand p outer (disjoin disjunct conjunction))
    | _, _ => .error (.unexpectedToken t.text t.start)

/-- Ends after the token `last`. -/
def finish (last : Token) : Reading → Except QueryError (Formula Clause)
  | .before _ _ => .error (.unexpectedEnd last.text last.start)
  | .after disjunct conjunction [] => .ok (disjoin disjunct conjunction)
  | .after _ _ (_ :: _) => .error (.missingBracket (last.stop + 1))

/-- Reads the tokens that follow the token `last`. -/
def run (maxDepth : Nat) (last : Token) : List Token → Reading → Except QueryError (Formula Clause)
  | [], r => r.finish last
  | t :: ts, r => do run maxDepth t ts (← r.step maxDepth ts.isEmpty t)

end Reading

/-- The formula that the tokens spell, or nothing if there are none. `and` binds tighter than `or`,
both group to the left, and `not` binds tightest. Brackets and `not`s may enclose one another up to
`maxDepth` deep. -/
def ofTokens? (maxDepth : Nat) : List Token → Except QueryError (Option (Formula Clause))
  | [] => .ok none
  | t :: ts => some <$> Reading.run maxDepth t (t :: ts) (.before .empty [])

end Formula

end IssueQuery
