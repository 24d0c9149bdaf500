namespace IssueQuery

/-- A boolean formula over leaves. -/
inductive Formula (α : Type) where
  | leaf (a : α)
  | and (left right : Formula α)
  | or (left right : Formula α)
  | not (inner : Formula α)
  deriving DecidableEq, Repr

namespace Formula

variable {α β : Type}

def map (f : α → β) : Formula α → Formula β
  | .leaf a => .leaf (f a)
  | .and l r => .and (l.map f) (r.map f)
  | .or l r => .or (l.map f) (r.map f)
  | .not p => .not (p.map f)

/-- The leaves from left to right. -/
def leaves : Formula α → List α
  | .leaf a => [a]
  | .and l r | .or l r => l.leaves ++ r.leaves
  | .not p => p.leaves

/-- The truth of a formula, given the truth of its leaves. -/
def eval (holds : α → Bool) : Formula α → Bool
  | .leaf a => holds a
  | .and l r => l.eval holds && r.eval holds
  | .or l r => l.eval holds || r.eval holds
  | .not p => !p.eval holds

def containsOr : Formula α → Bool
  | .leaf _ => false
  | .and l r => l.containsOr || r.containsOr
  | .or _ _ => true
  | .not p => p.containsOr

def containsNot : Formula α → Bool
  | .leaf _ => false
  | .and l r | .or l r => l.containsNot || r.containsNot
  | .not _ => true

/-- The leaves of a formula built by conjunction alone. -/
def conjuncts? : Formula α → Option (List α)
  | .leaf a => some [a]
  | .and l r => do return (← l.conjuncts?) ++ (← r.conjuncts?)
  | .or _ _ | .not _ => none

/-- The number of leaves and connectives. -/
def size : Formula α → Nat
  | .leaf _ => 1
  | .and l r | .or l r => l.size + r.size + 1
  | .not p => p.size + 1

/-- A formula as text, each binary connective in brackets of its own. -/
def render (text : α → List Char) : Formula α → List Char
  | .leaf a => text a
  | .and l r => '(' :: l.render text ++ " and ".toList ++ r.render text ++ [')']
  | .or l r => '(' :: l.render text ++ " or ".toList ++ r.render text ++ [')']
  | .not p => "not ".toList ++ p.render text

end Formula

end IssueQuery
