import IssueQuery.Text.Basic

namespace IssueQuery

/-- What a token is: the text of a filter, a keyword or a bracket. -/
inductive Token.Kind where
  | expression | and | or | not | openBracket | closeBracket
  deriving DecidableEq, Repr

/-- A token with the text it was written with and the positions of its first and last character. -/
structure Token where
  kind : Token.Kind
  text : Text
  start : Nat
  stop : Nat
  deriving DecidableEq, Repr

namespace Token.Kind

/-- The kind as messages name it. -/
def label : Kind → String
  | .expression => "expression"
  | .and => "and"
  | .or => "or"
  | .not => "not"
  | .openBracket => "("
  | .closeBracket => ")"

/-- The kind as a list of expected tokens names it: whatever is written literally stands in quotes. -/
def expectedLabel (k : Kind) : String :=
  if k = .expression then k.label else "'" ++ k.label ++ "'"

/-- An operand ends with a filter or a closing bracket. -/
def endsOperand : Kind → Bool
  | .expression | .closeBracket => true
  | _ => false

/-- What may follow a token, or start a query. -/
def following : Option Kind → List Kind
  | some .expression | some .closeBracket => [.and, .or, .closeBracket]
  | _ => [.openBracket, .not, .expression]

/-- The keyword a word spells, in any case of ASCII letters. -/
def ofKeyword? (w : Text) : Option Kind :=
  if Text.sameLetters w "and".toList then some .and
  else if Text.sameLetters w "or".toList then some .or
  else if Text.sameLetters w "not".toList then some .not
  else none

end Token.Kind

end IssueQuery
