import IssueQuery.FieldType
import IssueQuery.Filter

namespace IssueQuery

/-- A shorthand for one filter. -/
structure Hashtag where
  name : Text
  field : Text
  operator : Option Operator
  value : Text
  deriving DecidableEq, Repr

/-- The fields and hashtags that queries may use, and the member of a document under which custom
fields are stored by id. -/
structure Schema where
  fields : List FieldDef := []
  hashtags : List Hashtag := []
  customFieldRoot : Text := "custom_fields".toList

/-- A field of the schema, or a part of one, that a path leads to. -/
structure Target where
  /-- The place of the field in the schema. -/
  index : Nat
  field : FieldDef
  /-- The path as queries write it, with the declared name of the field. -/
  name : Text
  /-- The path in a document. -/
  path : List Text
  type : FieldType

namespace Schema

/-- The first field that satisfies `p`, with its place. -/
def findField? (s : Schema) (p : FieldDef → Bool) : Option (Nat × FieldDef) :=
  (s.fields.zipIdx.find? fun (f, _) => p f).map fun (f, i) => (i, f)

/-- The custom field with this id. -/
def customField? (s : Schema) (id : Text) : Option (Nat × FieldDef) :=
  s.findField? fun f => f.customId = some id

/-- The field that a name stands for: a reserved field of this name, else a custom field of this name
in any case, else the custom field with this id. -/
def lookup? (s : Schema) (name : Text) : Option (Nat × FieldDef) :=
  (s.findField? fun f => !f.isCustom && f.name = name).or
    ((s.findField? fun f => f.isCustom && Text.sameLetters f.name name).or (s.customField? name))

def hashtag? (s : Schema) (name : Text) : Option Hashtag :=
  s.hashtags.find? fun h => Text.sameLetters h.name name

/-- Where documents store a field. -/
def storagePath (s : Schema) (f : FieldDef) : List Text :=
  match f.customId with
  | some id => [s.customFieldRoot, id]
  | none => [f.name]

/-- What a path leads to. -/
def resolve? (s : Schema) : List Text → Option Target
  | [] => none
  | root :: rest => do
    let (index, field) ← s.lookup? root
    let type ← field.type.descend? rest
    return ⟨index, field, Filter.pathText (field.name :: rest), s.storagePath field ++ rest, type⟩

end Schema

end IssueQuery
