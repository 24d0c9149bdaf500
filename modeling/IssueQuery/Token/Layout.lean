import IssueQuery.Error
import IssueQuery.Token.Piece

namespace IssueQuery

/-- The tokens laid out so far, the newest first, and the number of brackets still open. -/
structure Layout where
  tokens : List Token
  openBrackets : Nat
  deriving DecidableEq, Repr

namespace Layout

def empty : Layout := ⟨[], 0⟩

/-- The kind of the newest token. -/
def preceding (l : Layout) : Option Token.Kind := l.tokens.head?.map Token.kind

/-- Whether an operand has just ended. -/
def afterOperand (l : Layout) : Bool := l.preceding.any Token.Kind.endsOperand

def push (l : Layout) (kind : Token.Kind) (text : Text) (start stop : Nat) : Layout :=
  { l with tokens := ⟨kind, text, start, stop⟩ :: l.tokens }

/-- Filter text without the blanks around it; blank text leaves no token. -/
def pushFilter (l : Layout) (start : Nat) (text : Text) : Layout :=
  match Text.trim text with
  | [] => l
  | c :: t =>
    let first := start + (text.takeWhile isBlank).length
    l.push .expression (c :: t) first (first + t.length)

/-- A binary keyword follows an operand, `not` does not. -/
def pushKeyword (l : Layout) (start : Nat) (kind : Token.Kind) (text : Text) : Except QueryError Layout :=
  if l.afterOperand = (kind != .not) then .ok (l.push kind text start (start + text.length - 1))
  else .error (.invalidOperator text start l.preceding)

def pushOpen (l : Layout) (start : Nat) : Except QueryError Layout :=
  if l.afterOperand then .error (.invalidBracket '(' start l.preceding)
  else .ok { l.push .openBracket ['('] start start with openBrackets := l.openBrackets + 1 }

/-- A closing bracket follows an operand. One that follows its opening bracket removes it, so an
empty pair leaves nothing behind. -/
def pushClose (l : Layout) (start : Nat) : Except QueryError Layout :=
  if l.afterOperand then
    .ok { l.push .closeBracket [')'] start start with openBrackets := l.openBrackets - 1 }
  else if l.preceding = some .openBracket then .ok ⟨l.tokens.tail, l.openBrackets - 1⟩
  else .error (.invalidBracket ')' start l.preceding)

/-- Lays out the piece that starts at `start`. -/
def place (l : Layout) (start : Nat) : Piece → Except QueryError Layout
  | .filter t => .ok (l.pushFilter start t)
  | .keyword kind t => l.pushKeyword start kind t
  | .openBracket => l.pushOpen start
  | .closeBracket => l.pushClose start

def placeAll (l : Layout) (start : Nat) : List Piece → Except QueryError Layout
  | [] => .ok l
  | p :: ps => do
    let l ← l.place start p
    l.placeAll (start + p.text.length) ps

/-- The tokens in order, with the brackets that are still open closed at `stop`. -/
def close (l : Layout) (stop : Nat) : List Token :=
  l.tokens.reverse ++ List.replicate l.openBrackets ⟨.closeBracket, [')'], stop, stop⟩

end Layout

/-- The tokens of a query. -/
def tokenize (query : Text) : Except QueryError (List Token) := do
  let l ← Layout.empty.placeAll 0 (Piece.ofText query)
  return l.close query.length

end IssueQuery
