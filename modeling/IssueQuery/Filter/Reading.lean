import IssueQuery.Error
import IssueQuery.Filter
import IssueQuery.Text.Word

namespace IssueQuery

/-- A fault, and the text that had not been read when it was met. -/
structure Stop where
  fault : Fault
  rest : Text
  deriving DecidableEq, Repr

/-- The characters of a value that needs no quotes. -/
def isBareChar (c : Char) : Bool := isAlphanumeric c || c == '.' || c == '_' || c == '-' || c == '+'

def isHashtagChar (c : Char) : Bool := isIdentChar c || c == '-'

namespace Filter

/-- Reads the rest of a quoted text whose opening quote has been read. -/
def readQuoted (t : Text) : Except Stop (Text × Text) :=
  match t.dropWhile (· != '"') with
  | [] => .error ⟨.unterminatedQuote, t⟩
  | _ :: rest => .ok (t.takeWhile (· != '"'), rest)

/-- Cuts a path at its separators, from left to right. -/
def splitPath : Text → List Text
  | '_' :: '_' :: t => [] :: splitPath t
  | c :: t => Text.consHead c (splitPath t)
  | [] => [[]]

/-- The text after a leading operator mark. -/
def afterMark? : Text → Option Text
  | '_' :: '_' :: '_' :: t => some t
  | _ => none

/-- Cuts an identifier at its last operator mark. -/
def splitOperator? : Text → Option (Text × Text)
  | [] => none
  | c :: t =>
    match splitOperator? t with
    | some (path, name) => some (c :: path, name)
    | none => (afterMark? (c :: t)).map fun name => ([], name)

def readOperator (name : Text) : Except Fault Operator :=
  match Operator.ofText? name with
  | some op => .ok op
  | none => .error (.unknownOperator name)

/-- The path and the operator that an identifier spells. -/
def readIdentifier (ident : Text) : Except Fault (List Text × Option Operator) := do
  let (path, op) ← match splitOperator? ident with
    | some (path, name) => (readOperator name).map fun op => (path, some op)
    | none => .ok (ident, none)
  if [] ∈ splitPath path then .error (.emptySegment ident) else .ok (splitPath path, op)

/-- Reads a field: a quoted name, with an operator right after it or without one, or an identifier. -/
def readField (t : Text) : Except Stop ((List Text × Option Operator) × Text) :=
  match t with
  | '"' :: t => do
    let (name, rest) ← readQuoted t
    if Text.trim name = [] then .error ⟨.blankFieldName, rest⟩
    else
      match afterMark? rest with
      | none => .ok (([name], none), rest)
      | some rest =>
        let after := rest.dropWhile isIdentChar
        match readOperator (rest.takeWhile isIdentChar) with
        | .ok op => .ok (([name], some op), after)
        | .error fault => .error ⟨fault, after⟩
  | t =>
    let rest := t.dropWhile isIdentChar
    match t.takeWhile isIdentChar with
    | [] => .error ⟨.missingFieldName, t⟩
    | ident =>
      match readIdentifier ident with
      | .ok field => .ok (field, rest)
      | .error fault => .error ⟨fault, rest⟩

/-- Reads the item of a value that begins with `c`. -/
def readItem (c : Char) (t : Text) : Except Stop (Text × Text) :=
  if c = '"' then readQuoted t
  else if isBareChar c then .ok (c :: t.takeWhile isBareChar, t.dropWhile isBareChar)
  else .error ⟨.unexpectedCharacter c, c :: t⟩

theorem length_dropWhile_le (p : Char → Bool) (t : Text) : (t.dropWhile p).length ≤ t.length :=
  (List.dropWhile_suffix p).length_le

theorem readQuoted_length {t item rest : Text} (h : readQuoted t = .ok (item, rest)) :
    rest.length ≤ t.length := by
  have bound := length_dropWhile_le (· != '"') t
  unfold readQuoted at h
  split at h
  · cases h
  · rename_i tail eq
    cases h
    rw [eq, List.length_cons] at bound
    omega

theorem readItem_length {c : Char} {t item rest : Text} (h : readItem c t = .ok (item, rest)) :
    rest.length ≤ t.length := by
  unfold readItem at h
  split at h
  · exact readQuoted_length h
  · split at h
    · cases h
      exact length_dropWhile_le isBareChar t
    · cases h

/-- Reads the items of a value up to the end of the text. Blanks may stand around each item. -/
def readItems (isFirst : Bool) (t : Text) : Except Stop (List Text) :=
  match _start : Text.trimStart t with
  | [] => .error ⟨if isFirst then .missingValue else .missingValueAfterComma, []⟩
  | c :: u =>
    match _item : readItem c u with
    | .error stop => .error stop
    | .ok (i, rest) =>
      match _next : Text.trimStart rest with
      | [] => .ok [i]
      | d :: v =>
        if d = ',' then (readItems false v).map (i :: ·)
        else .error ⟨.unexpectedCharacter d, d :: v⟩
termination_by t.length
decreasing_by
  have first : (Text.trimStart t).length ≤ t.length := length_dropWhile_le isBlank t
  have second : (Text.trimStart rest).length ≤ rest.length := length_dropWhile_le isBlank rest
  have third := readItem_length _item
  rw [_start, List.length_cons] at first
  rw [_next, List.length_cons] at second
  omega

/-- Reads a field path that stands alone, as in a sort key. -/
def readPath (t : Text) : Except Fault (List Text) :=
  match readField (Text.trimStart t) with
  | .error stop => .error stop.fault
  | .ok ((path, op), rest) =>
    match Text.trimStart rest, op with
    | c :: _, _ => .error (.unexpectedCharacter c)
    | [], some op => .error (.operatorNotAllowed op)
    | [], none => .ok path

/-- The path a name stands for: the path it spells, or else the whole name as one segment. -/
def namePath (name : Text) : List Text :=
  match readPath name with
  | .ok path => path
  | .error _ => [name]

end Filter

namespace Condition

/-- Reads a condition up to the end of the text. -/
def read (text : Text) : Except Stop Condition :=
  match Text.trimStart text with
  | '#' :: t =>
    match t.takeWhile isHashtagChar, Text.trimStart (t.dropWhile isHashtagChar) with
    | [], _ => .error ⟨.missingHashtagName, t⟩
    | name, [] => .ok (.hashtag name)
    | _, rest => .error ⟨.textAfterHashtag, rest⟩
  | t => do
    let ((path, op), rest) ← Filter.readField t
    match Text.trimStart rest with
    | ':' :: rest => return .field ⟨path, op, .ofItems (← Filter.readItems true rest)⟩
    | rest => .error ⟨.missingColon, rest.tail⟩

/-- The condition that a clause starting at `start` spells. A fault is reported where reading came to
a stop. -/
def ofText? (start : Nat) (text : Text) : Except QueryError Condition :=
  match read text with
  | .ok c => .ok c
  | .error stop => .error (.invalidExpression text (start + (text.length - stop.rest.length)) stop.fault)

end Condition

end IssueQuery
