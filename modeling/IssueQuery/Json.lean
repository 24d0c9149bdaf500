import IssueQuery.Number.Binary64
import IssueQuery.Text.Basic

namespace IssueQuery

/-- A JSON value. Integers and other numbers are kept apart, and objects keep the order of their
members. -/
inductive Json where
  | null
  | bool (b : Bool)
  | int (n : Int)
  | float (x : Binary64)
  | string (t : Text)
  | array (items : List Json)
  | object (members : List (Text × Json))

namespace Json

def ofString (s : String) : Json := .string s.toList

/-- An object with these members. -/
def ofMembers (members : List (String × Json)) : Json :=
  .object (members.map fun (key, value) => (key.toList, value))

/-- An optional member, left out when there is nothing to say. -/
def member? {α : Type} (key : String) (encode : α → Json) (value : Option α) : List (String × Json) :=
  (value.map fun a => (key, encode a)).toList

/-- The member of this name in a list of members. -/
def lookup? (key : Text) : List (Text × Json) → Option Json
  | [] => none
  | (k, v) :: rest => if k = key then some v else lookup? key rest

def member (key : String) : Json → Option Json
  | .object members => lookup? key.toList members
  | _ => none

def ofTexts (ts : List Text) : Json := .array (ts.map .string)

end Json

end IssueQuery
