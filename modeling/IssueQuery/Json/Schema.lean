import IssueQuery.Json.Decoding
import IssueQuery.Schema

namespace IssueQuery

namespace Operator

def toJson (op : Operator) : Json := .ofString op.name

def ofJson? (j : Json) : Option Operator := j.name? >>= ofName?

end Operator

mutual

def FieldType.toJson : FieldType → Json
  | .string => .ofString "string"
  | .int => .ofString "int"
  | .float => .ofString "float"
  | .bool => .ofString "bool"
  | .datetime => .ofString "datetime"
  | .list element => .ofMembers [("list", element.toJson)]
  | .object fields => .ofMembers [("object", .array (fieldsToJson fields))]

def FieldDef.toJson : FieldDef → Json
  | ⟨name, type, customId⟩ =>
    .ofMembers ([("name", .string name), ("type", type.toJson)] ++ Json.member? "custom_id" .string customId)

def fieldsToJson : List FieldDef → List Json
  | [] => []
  | f :: fs => f.toJson :: fieldsToJson fs

end

/-- The type of this name, if it has no parts. -/
def FieldType.ofName? (t : Text) : Option FieldType :=
  ([.string, .int, .float, .bool, .datetime] : List FieldType).find? fun type => type.label == t

namespace FieldDef

def keys : List String := ["name", "type", "custom_id"]

/-- A field with these members and the type that one of them has been read as. -/
def ofMembers? (members : List (Text × Json)) (type : Option FieldType) : Option FieldDef := do
  let name ← Json.lookup? "name".toList members >>= Json.text?
  let type ← type
  let customId ← Json.optional? Json.text? (Json.lookup? "custom_id".toList members)
  return ⟨name, type, customId⟩

end FieldDef

mutual

/-- Reads a type: its name, or an object with one key for the types that have parts. -/
def FieldType.ofJson? : Json → Option FieldType
  | .string t => FieldType.ofName? t
  | .object [(key, .null)] => FieldType.ofName? key
  | .object [(key, .array items)] =>
    if key = "object".toList then (fieldsOfJson? items).map .object else none
  | .object [(key, element)] =>
    if key = "list".toList then (FieldType.ofJson? element).map .list else none
  | _ => none

def FieldDef.ofJson? : Json → Option FieldDef
  | .object members => FieldDef.ofMembers? members (typeMember? members)
  | .array items => do FieldDef.ofMembers? (← Json.members? FieldDef.keys (.array items)) (typeItem? items)
  | _ => none

/-- Reads the type of a field among its members. -/
def typeMember? : List (Text × Json) → Option FieldType
  | [] => none
  | (key, value) :: rest => if key = "type".toList then FieldType.ofJson? value else typeMember? rest

/-- Reads the type of a field among items that stand for its members. -/
def typeItem? : List Json → Option FieldType
  | _ :: type :: _ => FieldType.ofJson? type
  | _ => none

def fieldsOfJson? : List Json → Option (List FieldDef)
  | [] => some []
  | j :: js => do
    let f ← FieldDef.ofJson? j
    return f :: (← fieldsOfJson? js)

end

def fieldList? : Json → Option (List FieldDef)
  | .array items => fieldsOfJson? items
  | _ => none

namespace Hashtag

def toJson (h : Hashtag) : Json :=
  .ofMembers ([("name", .string h.name), ("field", .string h.field)] ++
    Json.member? "operator" Operator.toJson h.operator ++ [("value", .string h.value)])

def ofJson? (j : Json) : Option Hashtag := do
  let members ← j.members? ["name", "field", "operator", "value"]
  let name ← Json.lookup? "name".toList members >>= Json.text?
  let field ← Json.lookup? "field".toList members >>= Json.text?
  let operator ← Json.optional? Operator.ofJson? (Json.lookup? "operator".toList members)
  let value ← Json.lookup? "value".toList members >>= Json.text?
  return ⟨name, field, operator, value⟩

end Hashtag

namespace Schema

def toJson (s : Schema) : Json :=
  .ofMembers [("fields", .array (fieldsToJson s.fields)), ("hashtags", .array (s.hashtags.map Hashtag.toJson)),
    ("custom_field_root", .string s.customFieldRoot)]

def ofJson? (j : Json) : Option Schema := do
  let members ← j.members? ["fields", "hashtags", "custom_field_root"]
  let fields ← Json.withDefault? [] fieldList? (Json.lookup? "fields".toList members)
  let hashtags ← Json.withDefault? [] (Json.list? Hashtag.ofJson?) (Json.lookup? "hashtags".toList members)
  let root ← Json.withDefault? "custom_fields".toList Json.text?
    (Json.lookup? "custom_field_root".toList members)
  return ⟨fields, hashtags, root⟩

end Schema

end IssueQuery
