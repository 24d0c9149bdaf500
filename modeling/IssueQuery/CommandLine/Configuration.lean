import IssueQuery.Json.Reading
import IssueQuery.Json.Settings
import IssueQuery.Number.Notation

namespace IssueQuery.CommandLine

/-- The settings of the program outside its arguments. -/
structure Configuration where
  schema : Option Text := none
  settings : Settings := {}

/-- Sets a value deep inside an object, making objects on the way where there are none. -/
def setMember (value : Json) : List Text → Json → Json
  | [], _ => value
  | key :: path, j =>
    let members := match j with
      | .object members => members
      | _ => []
    let inner := (Json.lookup? key members).getD .null
    .object (members.filter (fun (k, _) => k != key) ++ [(key, setMember value path inner)])

/-- Cuts text into its lines. -/
def splitLines : Text → List Text
  | [] => [[]]
  | c :: t => if c = '\n' then [] :: splitLines t else Text.consHead c (splitLines t)

/-- Reads lines that set keys, after a line with the name of their table in square brackets. -/
def readTables? (table : List Text) (j : Json) : List Text → Option Json
  | [] => some j
  | line :: lines =>
    match Text.trim line with
    | [] | '#' :: _ => readTables? table j lines
    | '[' :: t =>
      if t.getLast? = some ']' then readTables? [Text.trim t.dropLast] j lines else none
    | t => do
      let value ← Json.ofText? ((t.dropWhile (· != '=')).drop 1)
      readTables? table (setMember value (table ++ [Text.trim (t.takeWhile (· != '='))]) j) lines

/-- Reads a configuration file in the format that its name ends with. -/
def readConfigFile? (name text : Text) : Option Json :=
  if ".json".toList.isSuffixOf name then
    match Json.ofText? text with
    | some (.object members) => some (.object members)
    | _ => none
  else if ".toml".toList.isSuffixOf name then readTables? [] (.object []) (splitLines text)
  else none

/-- The path of a setting in the name of an environment variable: after `TRACKQL_`, in any case, two
underscores separate its parts. -/
def settingPath? (variableName : Text) : Option (List Text) :=
  let mark := "trackql_".toList
  let name := variableName.map Char.toLower
  if mark.isPrefixOf name then some (splitParts (name.drop mark.length)) else none
where
  splitParts : Text → List Text
    | '_' :: '_' :: t => [] :: splitParts t
    | c :: t => Text.consHead c (splitParts t)
    | [] => [[]]

/-- Environment variables override what is set so far. -/
def applyEnvironment (environment : List (Text × Text)) (j : Json) : Json :=
  environment.foldl (fun j (name, value) =>
    match settingPath? name with
    | some path => setMember (.string value) path j
    | none => j) j

/-- Configuration values convert to text. -/
def textSetting? : Json → Option Text
  | .string t => some t
  | .int n => some (Text.ofInt n)
  | .float x => some (NumberStyle.plain.render x)
  | .bool b => some (if b then "true" else "false").toList
  | _ => none

def truthWord? (t : Text) : Option Bool :=
  let t := t.map Char.toLower
  if t = "true".toList ∨ t = "on".toList ∨ t = "yes".toList then some true
  else if t = "false".toList ∨ t = "off".toList ∨ t = "no".toList then some false
  else none

/-- Configuration values convert to a depth; a fraction is rounded, and words of truth count as one
and zero. -/
def depthSetting? : Json → Option Nat
  | .int n => if 0 ≤ n then some n.toNat else none
  | .float x =>
    some (min ((1 <<< 64) - 1) (if x.negative then 0
      else (2 * x.magnitude + Binary64.unitsPerOne) / (2 * Binary64.unitsPerOne)))
  | .bool b => some b.toNat
  | .string t =>
    let digits := match t with
      | '+' :: ds => ds
      | ds => ds
    match truthWord? t with
    | some b => some b.toNat
    | none =>
      if digits ≠ [] ∧ digits.all Char.isDigit ∧ Text.digitsValue digits < 1 <<< 64 then
        some (Text.digitsValue digits)
      else none
  | _ => none

/-- Configuration values convert to a truth value. -/
def truthSetting? : Json → Option Bool
  | .bool b => some b
  | .int n => some (n != 0)
  | .float x => some (x.mantissa != 0)
  | .string t => if t = ['1'] then some true else if t = ['0'] then some false else truthWord? t
  | _ => none

/-- A direction is a name, or an object with the name as its only key. -/
def directionSetting? : Json → Option Direction
  | .string t => Direction.ofName? t
  | .object [(key, _)] => Direction.ofName? key
  | _ => none

def settings? : Json → Option Settings
  | .object members => do
    let defaults : Settings := {}
    let field ← Json.withDefault? defaults.defaultSortField textSetting?
      (Json.lookup? "default_sort_field".toList members)
    let direction ← Json.withDefault? defaults.defaultSortDirection directionSetting?
      (Json.lookup? "default_sort_direction".toList members)
    let maxDepth ← Json.withDefault? defaults.maxDepth depthSetting? (Json.lookup? "max_depth".toList members)
    return ⟨field, direction, maxDepth⟩
  | _ => none

/-- The settings of the log, which have to be valid although nothing else depends on them. -/
def checkLogging? : Json → Option Unit
  | .object members => do
    let _ ← Json.withDefault? [] textSetting? (Json.lookup? "level".toList members)
    let _ ← Json.withDefault? false truthSetting? (Json.lookup? "json".toList members)
    return ()
  | _ => none

def Configuration.ofJson? : Json → Option Configuration
  | .object members => do
    let schema ← Json.optional? textSetting? (Json.lookup? "schema".toList members)
    Json.withDefault? () checkLogging? (Json.lookup? "logging".toList members)
    let settings ← Json.withDefault? {} settings? (Json.lookup? "query".toList members)
    return ⟨schema, settings⟩
  | _ => none

end IssueQuery.CommandLine
