import IssueQuery.Json
import IssueQuery.Number.Notation

namespace IssueQuery.Json

/-- How a character is written inside a string: quote, backslash and control characters by an escape,
all else as it is. -/
def escapeChar (c : Char) : Text :=
  match c with
  | '"' => ['\\', '"']
  | '\\' => ['\\', '\\']
  | '\x08' => ['\\', 'b']
  | '\x0c' => ['\\', 'f']
  | '\n' => ['\\', 'n']
  | '\r' => ['\\', 'r']
  | '\t' => ['\\', 't']
  | c =>
    if c.toNat < 0x20 then
      ['\\', 'u', '0', '0'] ++ (if c.toNat < 0x10 then ['0'] else []) ++ Nat.toDigits 16 c.toNat
    else [c]

def renderString (t : Text) : Text := '"' :: t.flatMap escapeChar ++ ['"']

mutual

/-- JSON text without any spacing. -/
def render : Json → Text
  | .null => "null".toList
  | .bool b => (if b then "true" else "false").toList
  | .int n => Text.ofInt n
  | .float x => NumberStyle.json.render x
  | .string t => renderString t
  | .array items => '[' :: Text.join [','] (renderItems items) ++ [']']
  | .object members => '{' :: Text.join [','] (renderMembers members) ++ ['}']

def renderItems : List Json → List Text
  | [] => []
  | j :: js => render j :: renderItems js

def renderMembers : List (Text × Json) → List Text
  | [] => []
  | (key, j) :: ms => (renderString key ++ ':' :: render j) :: renderMembers ms

end

private def newLine (depth : Nat) : Text := '\n' :: List.replicate (2 * depth) ' '

/-- Items on lines of their own, two spaces further in than the brackets around them. -/
private def block (depth : Nat) (opening closing : Char) (items : List Text) : Text :=
  if items.isEmpty then [opening, closing]
  else
    opening :: newLine (depth + 1) ++ Text.join (',' :: newLine (depth + 1)) items ++ newLine depth ++ [closing]

mutual

/-- JSON text with one item or member a line. -/
def renderPretty (depth : Nat) : Json → Text
  | .array items => block depth '[' ']' (prettyItems (depth + 1) items)
  | .object members => block depth '{' '}' (prettyMembers (depth + 1) members)
  | j => render j

def prettyItems (depth : Nat) : List Json → List Text
  | [] => []
  | j :: js => renderPretty depth j :: prettyItems depth js

def prettyMembers (depth : Nat) : List (Text × Json) → List Text
  | [] => []
  | (key, j) :: ms => (renderString key ++ ':' :: ' ' :: renderPretty depth j) :: prettyMembers depth ms

end

end IssueQuery.Json
