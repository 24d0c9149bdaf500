import IssueQuery.Document
import IssueQuery.Pattern
import IssueQuery.Value

namespace IssueQuery

/-- How the values at a path are compared. A regular expression is written by a pattern. -/
inductive CompareOp where
  | eq | ne | isIn | notIn | lt | lte | gt | gte
  | regex (ignoreCase : Bool)
  deriving DecidableEq, Repr

/-- A comparison of the values at a path of a document with a value. -/
structure Comparison where
  path : List Text
  op : CompareOp
  value : Value

/-- A condition on documents. Only single comparisons are negated; `nor` holds if none of its parts
does. -/
inductive Predicate where
  | compare (c : Comparison)
  | not (c : Comparison)
  | and (parts : List Predicate)
  | or (parts : List Predicate)
  | nor (parts : List Predicate)

namespace Value

def equals (v : Value) (doc : Json) : Bool := v.compareJson doc == some .eq

/-- Equality with the value, or with some item of a list. -/
def includes : Value → Json → Bool
  | .list items, doc => items.any fun v => v.equals doc
  | v, doc => v.equals doc

end Value

namespace Comparison

/-- Whether some value found at the path stands in an accepted order to the value of the comparison. -/
def anyOrder (c : Comparison) (found : List Json) (accept : Ordering → Bool) : Bool :=
  found.any fun j => (c.value.compareJson j).any accept

/-- Whether some text found at the path has the pattern. A value that is no pattern is found nowhere. -/
def anyText (c : Comparison) (found : List Json) (ignoreCase : Bool) : Bool :=
  match c.value with
  | .string t =>
    match Pattern.ofText? t with
    | some p => found.any fun
      | .string s => p.holds ignoreCase s
      | _ => false
    | none => false
  | _ => false

/-- Whether a document satisfies the comparison. If there are several values at the path, one is
enough; if there is none, only the negative comparisons hold. -/
def holds (c : Comparison) (doc : Json) : Bool :=
  let found := doc.valuesAt c.path
  match c.op with
  | .eq => found.any c.value.equals
  | .ne => !found.any c.value.equals
  | .isIn => found.any c.value.includes
  | .notIn => !found.any c.value.includes
  | .lt => c.anyOrder found fun o => o == .lt
  | .lte => c.anyOrder found fun o => o != .gt
  | .gt => c.anyOrder found fun o => o == .gt
  | .gte => c.anyOrder found fun o => o != .lt
  | .regex ignoreCase => c.anyText found ignoreCase

end Comparison

namespace Predicate

def conjuncts : Predicate → List Predicate
  | .and parts => parts
  | p => [p]

def disjuncts : Predicate → List Predicate
  | .or parts => parts
  | p => [p]

/-- Both. A conjunction in either place is taken apart. -/
def conj (p q : Predicate) : Predicate := .and (p.conjuncts ++ q.conjuncts)

/-- At least one. A disjunction in either place is taken apart. -/
def disj (p q : Predicate) : Predicate := .or (p.disjuncts ++ q.disjuncts)

/-- Neither. A disjunction in either place is taken apart. -/
def neither (p q : Predicate) : Predicate := .nor (p.disjuncts ++ q.disjuncts)

mutual

/-- Whether a document satisfies the predicate. -/
def holds (doc : Json) : Predicate → Bool
  | .compare c => c.holds doc
  | .not c => !c.holds doc
  | .and parts => allHold doc parts
  | .or parts => anyHolds doc parts
  | .nor parts => !anyHolds doc parts

def allHold (doc : Json) : List Predicate → Bool
  | [] => true
  | p :: ps => holds doc p && allHold doc ps

def anyHolds (doc : Json) : List Predicate → Bool
  | [] => false
  | p :: ps => holds doc p || anyHolds doc ps

end

end Predicate

end IssueQuery
