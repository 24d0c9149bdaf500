import IssueQuery.Text.Basic
import IssueQuery.Text.CaseFold

namespace IssueQuery

/-- A literal text to be found in another, wherever it stands or only at the start or the end. -/
structure Pattern where
  fromStart : Bool
  body : Text
  toEnd : Bool
  deriving DecidableEq, Repr

namespace Pattern

/-- The characters that are written with a backslash. -/
def isSpecial (c : Char) : Bool := "\\.+*?()|[]\x7b\x7d^$#&-~".toList.contains c

def escapeChar (c : Char) : Text := if isSpecial c then ['\\', c] else [c]

/-- A pattern as a regular expression. -/
def render (p : Pattern) : Text :=
  (if p.fromStart then ['^'] else []) ++ p.body.flatMap escapeChar ++ (if p.toEnd then ['$'] else [])

/-- Reads the literal text of a pattern and whether it is bound to the end. -/
def readBody? : Text → Option (Text × Bool)
  | [] => some ([], false)
  | ['$'] => some ([], true)
  | '\\' :: c :: t => if isSpecial c then (readBody? t).map fun (body, toEnd) => (c :: body, toEnd) else none
  | c :: t => if isSpecial c then none else (readBody? t).map fun (body, toEnd) => (c :: body, toEnd)

/-- The pattern that a regular expression writes. Only literal text with its anchors is a pattern. -/
def ofText? : Text → Option Pattern
  | '^' :: t => (readBody? t).map fun (body, toEnd) => ⟨true, body, toEnd⟩
  | t => (readBody? t).map fun (body, toEnd) => ⟨false, body, toEnd⟩

/-- Whether `body` stands anywhere in a text. -/
def occursIn (body : Text) : Text → Bool
  | [] => body.isEmpty
  | c :: t => body.isPrefixOf (c :: t) || occursIn body t

def holdsExactly (p : Pattern) (t : Text) : Bool :=
  match p.fromStart, p.toEnd with
  | true, true => p.body == t
  | true, false => p.body.isPrefixOf t
  | false, true => p.body.isSuffixOf t
  | false, false => occursIn p.body t

/-- Whether a text has the pattern, with letters compared up to case or exactly. -/
def holds (ignoreCase : Bool) (p : Pattern) (t : Text) : Bool :=
  if ignoreCase then { p with body := p.body.map foldCase }.holdsExactly (t.map foldCase) else p.holdsExactly t

end Pattern

end IssueQuery
