import IssueQuery.CommandLine.Arguments
import IssueQuery.CommandLine.Configuration
import IssueQuery.Draft.Report
import IssueQuery.Json.Draft
import IssueQuery.Json.Printing
import IssueQuery.Json.Search

namespace IssueQuery.CommandLine

/-- The files and the standard input that the program can read. -/
structure World (m : Type → Type) where
  file : Text → m (Option Text)
  standardInput : m Text
  environment : List (Text × Text)

/-- Why the program stops: what it was doing, and the fault of the query if it lies there. -/
structure Failure where
  context : Text
  cause : Option QueryError

namespace Failure

def ofContext (s : String) : Failure := ⟨s.toList, none⟩

/-- What went wrong with a text that the failure quotes. -/
def ofQuery (doing : String) (text : Text) (e : QueryError) : Failure :=
  ⟨doing.toList ++ ' ' :: text.quoted, some e⟩

/-- The cause as it is shown: the lines after the first are indented. -/
def causeText (f : Failure) : Option Text :=
  f.cause.map fun e => e.message.flatMap fun c => if c = '\n' then "\n    ".toList else [c]

end Failure

/-- How the program ends. -/
inductive Outcome where
  | usage
  | failed (f : Failure)
  | done (output : Text)

/-- The exit status: arguments that cannot be read are told from other failures. -/
def Outcome.status : Outcome → Nat
  | .done _ => 0
  | .failed _ => 1
  | .usage => 2

section Steps

variable {m : Type → Type} [Monad m]

/-- Reads the configuration file, which has to exist only if it is named, and the environment. -/
def loadConfiguration (w : World m) (named : Option Text) : ExceptT Failure m Configuration := do
  let name := named.getD "trackql.toml".toList
  let file ← match ← w.file name with
    | some text => pure (readConfigFile? name text)
    | none => pure (if named.isSome then none else some (.object []))
  match file.bind fun j => Configuration.ofJson? (applyEnvironment w.environment j) with
  | some c => return c
  | none => throw (.ofContext "Failed to load configuration")

def loadSchema (w : World m) (path : Text) : ExceptT Failure m Schema := do
  match ← w.file path with
  | none => throw ⟨"Failed to read schema ".toList ++ path, none⟩
  | some text =>
    match Json.ofText? text >>= Schema.ofJson? with
    | some schema => return schema
    | none => throw ⟨"Invalid schema ".toList ++ path, none⟩

/-- Reads a file, or the standard input for a dash. -/
def readInput (w : World m) (path : Text) : ExceptT Failure m Text := do
  if path = ['-'] then w.standardInput
  else
    match ← w.file path with
    | some text => return text
    | none => throw ⟨"Failed to read ".toList ++ path, none⟩

/-- The answer to a command. -/
def runCommand (w : World m) (scope : Scope) (settings : Settings) : Command → ExceptT Failure m Json
  | .compile query mode =>
    match scope.compileQuery mode settings.maxDepth query with
    | .ok p => return Predicate.optionToJson p
    | .error e => throw (.ofQuery "Failed to compile query" query e)
  | .sort text =>
    match scope.parseSort text with
    | .ok keys => return .array (keys.map SortKey.toJson)
    | .error e => throw (.ofQuery "Failed to parse sort clause" text e)
  | .search text =>
    match scope.search settings text with
    | .ok s => return s.toJson
    | .error e => throw (.ofQuery "Failed to compile search" text e)
  | .build file => do
    let text ← readInput w file
    match Json.ofText? text >>= Draft.ofJson? with
    | none => throw (.ofContext "Failed to parse builder query JSON")
    | some draft =>
      match scope.reportDraft settings draft with
      | .ok r => return r.toJson
      | .error e => throw ⟨"Failed to build query".toList, some e⟩
  | .parse text =>
    match scope.reportText settings text with
    | .ok r => return r.toJson
    | .error e => throw (.ofQuery "Failed to parse query" text e)

def runInvocation (w : World m) (i : Invocation) : ExceptT Failure m Text := do
  let configuration ← loadConfiguration w i.options.config
  let some path := i.options.schema.or configuration.schema
    | throw (.ofContext "No schema given; pass --schema or set `schema` in the config file")
  let schema ← loadSchema w path
  let answer ← runCommand w ⟨schema, i.options.permitted⟩ configuration.settings i.command
  return (if i.options.pretty then answer.renderPretty 0 else answer.render) ++ ['\n']

/-- Runs the program with these arguments. -/
def run (w : World m) (arguments : List Text) : m Outcome := do
  match Invocation.ofArguments? arguments with
  | none => return .usage
  | some i =>
    match ← (runInvocation w i).run with
    | .ok output => return .done output
    | .error f => return .failed f

end Steps

end IssueQuery.CommandLine
