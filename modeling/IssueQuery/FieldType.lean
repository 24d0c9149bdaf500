import IssueQuery.Operator
import IssueQuery.Value

namespace IssueQuery

mutual

/-- The declared type of a field. -/
inductive FieldType where
  | string | int | float | bool | datetime
  | list (element : FieldType)
  | object (fields : List FieldDef)

/-- A declared field. A custom field has an id, and its name is for display. -/
structure FieldDef where
  name : Text
  type : FieldType
  customId : Option Text

end

namespace FieldType

/-- The operators that filters on fields of this type may use. -/
def operators : FieldType → List Operator
  | .string => [.eq, .ne, .isIn, .notIn, .contains, .icontains, .startsWith, .endsWith]
  | .int | .float | .datetime => [.eq, .ne, .isIn, .notIn, .lt, .lte, .gt, .gte]
  | .list _ => [.eq, .ne, .isIn, .notIn]
  | .bool | .object _ => [.eq, .ne]

def supports (t : FieldType) (op : Operator) : Bool := t.operators.contains op

/-- Reads a written value as this type. Values are compared with the elements of lists. -/
def coerce : FieldType → Text → Value
  | .string, raw | .object _, raw => .string raw
  | .int, raw => Value.readInt raw
  | .float, raw => Value.readFloat raw
  | .bool, raw => Value.readBool raw
  | .datetime, raw => Value.readInstant raw
  | .list element, raw => element.coerce raw

/-- The type of a named part of an object, or of the objects in a list. -/
def subfield? (name : Text) : FieldType → Option FieldType
  | .object fields => (fields.find? fun f => f.name = name).map FieldDef.type
  | .list element => element.subfield? name
  | _ => none

/-- The type of the part that a path leads to. -/
def descend? : FieldType → List Text → Option FieldType
  | t, [] => some t
  | t, name :: rest => t.subfield? name >>= fun inner => inner.descend? rest

def label : FieldType → Text
  | .string => "string".toList
  | .int => "int".toList
  | .float => "float".toList
  | .bool => "bool".toList
  | .datetime => "datetime".toList
  | .list element => "list<".toList ++ element.label ++ ['>']
  | .object _ => "object".toList

end FieldType

namespace FieldDef

def isCustom (f : FieldDef) : Bool := f.customId.isSome

/-- Whether a list of permitted fields may mean this field by `name`: a custom field is named by its
id or its name in any case. -/
def answersTo (f : FieldDef) (name : Text) : Bool :=
  match f.customId with
  | none => f.name == name
  | some id => id == name || Text.sameLetters f.name name

def isPermitted (f : FieldDef) (permitted : List Text) : Bool := permitted.any f.answersTo

end FieldDef

end IssueQuery
