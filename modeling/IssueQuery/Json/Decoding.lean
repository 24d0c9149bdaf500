import IssueQuery.Json

namespace IssueQuery.Json

def text? : Json → Option Text
  | .string t => some t
  | _ => none

def list? {α : Type} (decode : Json → Option α) : Json → Option (List α)
  | .array items => items.mapM decode
  | _ => none

/-- A member that may be missing or null. -/
def optional? {α : Type} (decode : Json → Option α) : Option Json → Option (Option α)
  | none | some .null => some none
  | some j => (decode j).map some

/-- A member that may be missing, but not null. -/
def withDefault? {α : Type} (default : α) (decode : Json → Option α) : Option Json → Option α
  | none => some default
  | some j => decode j

/-- The members of a record that has these keys: those of an object, or else the items of an array, one for each
key in the order of the keys. Items at the end may be missing. -/
def members? (keys : List String) : Json → Option (List (Text × Json))
  | .object members => some members
  | .array items => if items.length ≤ keys.length then some ((keys.map String.toList).zip items) else none
  | _ => none

/-- A name out of a fixed set: a string, or an object with the name as its only key and null as its
value. -/
def name? : Json → Option Text
  | .string t => some t
  | .object [(key, .null)] => some key
  | _ => none

end IssueQuery.Json
