import IssueQuery.Filter.Reading
import IssueQuery.Schema

namespace IssueQuery

namespace Filter

/-- Text in double quotes, which cannot hold one itself. -/
def quote (t : Text) : Text := '"' :: t ++ ['"']

def isKeyword (t : Text) : Bool := (Token.Kind.ofKeyword? t).isSome

/-- Whether a text reads as this path. -/
def readsAs (t : Text) (path : List Text) : Bool :=
  match readPath t with
  | .ok p => p == path
  | .error _ => false

/-- A reference to a part of a field. It is written plainly if that reads back and is no keyword, else
the name of a whole field is quoted, else a custom field is named by its id. -/
def renderField (field : FieldDef) (rest : List Text) : Except QueryError Text :=
  let plain := pathText (field.name :: rest)
  if !isKeyword plain && readsAs plain (field.name :: rest) then .ok plain
  else if rest = [] ∧ '"' ∉ field.name then .ok (quote field.name)
  else
    match field.customId with
    | some id =>
      if readsAs (pathText (id :: rest)) (id :: rest) then .ok (pathText (id :: rest))
      else .error (.unquotableValue field.name)
    | none => .error (.unquotableValue field.name)

/-- An item of a value, quoted unless it reads back without quotes and is no keyword. -/
def renderItem (item : Text) : Except QueryError Text :=
  if '"' ∈ item then .error (.unquotableValue item)
  else if item ≠ [] ∧ item.all isBareChar ∧ isKeyword item = false then .ok item
  else .ok (quote item)

def renderItems : List Text → Except QueryError (List Text)
  | [] => .ok []
  | item :: items => do
    let t ← renderItem item
    return t :: (← renderItems items)

def renderValue (v : RawValue) : Except QueryError Text :=
  (renderItems v.items).map (Text.join [',', ' '])

def renderOperator : Option Operator → Text
  | some op => operatorMark ++ op.name.toList
  | none => []

end Filter

end IssueQuery
