import IssueQuery.Instant.Printing
import IssueQuery.Instant.Reading
import IssueQuery.Json.Printing
import IssueQuery.Text.Quoted

namespace IssueQuery

/-- A value of a comparison. Text that does not read as the type of its field stays text. -/
inductive Value where
  | string (t : Text)
  | int (n : Int)
  | float (x : Binary64)
  | bool (b : Bool)
  | instant (t : Instant)
  | list (items : List Value)

namespace Value

/-- Everything but `false`, in any case of its letters, and `0` is true. -/
def readBool (raw : Text) : Value := .bool (!(Text.sameLetters raw "false".toList || raw == ['0']))

def readInt (raw : Text) : Value := ((readInt64? (Text.trim raw)).map int).getD (.string raw)

def readFloat (raw : Text) : Value := ((readBinary64? (Text.trim raw)).map float).getD (.string raw)

def readInstant (raw : Text) : Value := ((Instant.ofText? raw).map instant).getD (.string raw)

/-- The order of a value found in a document relative to this value, if the two can be compared.
Numbers are compared as floating-point numbers. Text is compared with the written form of a number
or a truth value. -/
def compareJson : Value → Json → Option Ordering
  | .string a, .string b => some (Text.compare b a)
  | .string a, .int b => some (Text.compare (Json.int b).render a)
  | .string a, .float b => some (Text.compare (Json.float b).render a)
  | .string a, .bool b => some (Text.compare (Json.bool b).render a)
  | .int a, .int b => some ((Binary64.ofInt b).compare (Binary64.ofInt a))
  | .int a, .float b => some (b.compare (Binary64.ofInt a))
  | .float a, .int b => some ((Binary64.ofInt b).compare a)
  | .float a, .float b => some (b.compare a)
  | .bool a, .bool b => some (Ord.compare b.toNat a.toNat)
  | .instant a, .string b => (Instant.readTimestamp? b).map fun b => b.compare a
  | _, _ => none

mutual

/-- A value as other text shows it. -/
def render : Value → Text
  | .string t => t.quoted
  | .int n => Text.ofInt n
  | .float x => NumberStyle.plain.render x
  | .bool b => (Json.bool b).render
  | .instant t => t.render "+00:00".toList
  | .list items => '[' :: Text.join [',', ' '] (renderItems items) ++ [']']

def renderItems : List Value → List Text
  | [] => []
  | v :: vs => render v :: renderItems vs

end

mutual

def toJson : Value → Json
  | .string t => .string t
  | .int n => .int n
  | .float x => .float x
  | .bool b => .bool b
  | .instant t => .string (t.render ['Z'])
  | .list items => .array (itemsToJson items)

def itemsToJson : List Value → List Json
  | [] => []
  | v :: vs => toJson v :: itemsToJson vs

end

end Value

end IssueQuery
