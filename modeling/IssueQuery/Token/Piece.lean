import IssueQuery.Token

namespace IssueQuery

/-- Keywords are bounded by blanks, brackets and the ends of the query. -/
def isBoundary (c : Char) : Bool := isBlank c || c == '(' || c == ')'

/-- Cuts text into words: every boundary character is a word of its own, the other words are the
longest stretches between them. -/
def Text.words : Text → List Text
  | [] => []
  | c :: t =>
    match words t with
    | [] => [[c]]
    | [] :: ws => [c] :: ws
    | (d :: w) :: ws => if isBoundary c || isBoundary d then [c] :: (d :: w) :: ws else (c :: d :: w) :: ws

/-- A stretch of query text that stands for a keyword, a bracket, or the filter text between them. -/
inductive Piece where
  | filter (text : Text)
  | keyword (kind : Token.Kind) (text : Text)
  | openBracket
  | closeBracket
  deriving DecidableEq, Repr

namespace Piece

def text : Piece → Text
  | .filter t => t
  | .keyword _ t => t
  | .openBracket => ['(']
  | .closeBracket => [')']

/-- Puts a word in front, as part of the filter text that follows it. -/
def consFilter (w : Text) : List Piece → List Piece
  | .filter t :: ps => .filter (w ++ t) :: ps
  | ps => .filter w :: ps

/-- What each word stands for. Inside double quotes every word is filter text. -/
def ofWords (quoted : Bool) : List Text → List Piece
  | [] => []
  | w :: ws =>
    if quoted then consFilter w (ofWords (Text.quotedAfter quoted w) ws)
    else if w = ['('] then .openBracket :: ofWords false ws
    else if w = [')'] then .closeBracket :: ofWords false ws
    else
      match Token.Kind.ofKeyword? w with
      | some k => .keyword k w :: ofWords false ws
      | none => consFilter w (ofWords (Text.quotedAfter quoted w) ws)

/-- The pieces of a query, in order and without a gap. -/
def ofText (query : Text) : List Piece := ofWords false query.words

end Piece

end IssueQuery
