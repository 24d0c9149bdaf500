import IssueQuery.Draft
import IssueQuery.Json.Schema
import IssueQuery.Json.Settings

namespace IssueQuery

namespace RawValue

def toJson : RawValue → Json
  | .scalar item => .string item
  | .list items => Json.ofTexts items

def ofJson? : Json → Option RawValue
  | .string t => some (.scalar t)
  | .array items => (items.mapM Json.text?).map .list
  | _ => none

end RawValue

namespace DraftFilter

def toJson (f : DraftFilter) : Json :=
  .ofMembers ([("name", .string f.name)] ++ Json.member? "operator" Operator.toJson f.operator ++
    Json.member? "value" RawValue.toJson f.value ++ Json.member? "gid" .string f.customId)

def ofJson? (j : Json) : Option DraftFilter := do
  let members ← j.members? ["name", "operator", "value", "gid"]
  let name ← Json.lookup? "name".toList members >>= Json.text?
  let operator ← Json.optional? Operator.ofJson? (Json.lookup? "operator".toList members)
  let value ← Json.optional? RawValue.ofJson? (Json.lookup? "value".toList members)
  let customId ← Json.optional? Json.text? (Json.lookup? "gid".toList members)
  return ⟨name, operator, value, customId⟩

end DraftFilter

namespace DraftSort

def toJson (k : DraftSort) : Json :=
  .ofMembers ([("name", .string k.name), ("direction", k.direction.toJson)] ++
    Json.member? "gid" .string k.customId)

def ofJson? (j : Json) : Option DraftSort := do
  let members ← j.members? ["name", "direction", "gid"]
  let name ← Json.lookup? "name".toList members >>= Json.text?
  let direction ← Json.withDefault? .asc Direction.ofJson? (Json.lookup? "direction".toList members)
  let customId ← Json.optional? Json.text? (Json.lookup? "gid".toList members)
  return ⟨name, direction, customId⟩

end DraftSort

namespace Draft

def toJson (d : Draft) : Json :=
  .ofMembers [("filters", .array (d.filters.map DraftFilter.toJson)),
    ("sort_by", .array (d.sortBy.map DraftSort.toJson))]

def ofJson? (j : Json) : Option Draft := do
  let members ← j.members? ["filters", "sort_by"]
  let filters ← Json.withDefault? [] (Json.list? DraftFilter.ofJson?) (Json.lookup? "filters".toList members)
  let sortBy ← Json.withDefault? [] (Json.list? DraftSort.ofJson?) (Json.lookup? "sort_by".toList members)
  return ⟨filters, sortBy⟩

end Draft

namespace ReportedFilter

def toJson : ReportedFilter → Json
  | .hashtag name => .ofMembers [("kind", .ofString "hashtag"), ("name", .string name)]
  | .field name operator value type customId =>
    .ofMembers ([("kind", .ofString "field"), ("name", .string name)] ++
      Json.member? "operator" Operator.toJson operator ++ [("value", value.toJson), ("type", .string type)] ++
      Json.member? "gid" .string customId)

end ReportedFilter

def ReportedSort.toJson (k : ReportedSort) : Json :=
  .ofMembers ([("name", .string k.name), ("direction", k.direction.toJson)] ++
    Json.member? "type" .string k.type ++ Json.member? "gid" .string k.customId)

def AvailableField.toJson (f : AvailableField) : Json :=
  .ofMembers ([("name", .string f.name), ("type", .string f.type)] ++ Json.member? "gid" .string f.customId)

def Report.toJson (r : Report) : Json :=
  .ofMembers [("query", .string r.query), ("filters", .array (r.filters.map ReportedFilter.toJson)),
    ("sort_by", .array (r.sortBy.map ReportedSort.toJson)),
    ("available_fields", .array (r.availableFields.map AvailableField.toJson))]

end IssueQuery
