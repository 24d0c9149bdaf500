import IssueQuery.CommandLine.Run

namespace IssueQuery

/-- The environment variables that set something. -/
def settingVariables : List String :=
  ["TRACKQL_SCHEMA", "TRACKQL_LOGGING__LEVEL", "TRACKQL_LOGGING__JSON", "TRACKQL_QUERY__DEFAULT_SORT_FIELD",
    "TRACKQL_QUERY__DEFAULT_SORT_DIRECTION", "TRACKQL_QUERY__MAX_DEPTH"]

def readFileIO (name : Text) : IO (Option Text) := do
  try
    return some (← IO.FS.readFile (String.ofList name)).toList
  catch _ => return none

def readStandardInput : IO Text := do
  let bytes ← (← IO.getStdin).readBinToEnd
  return ((String.fromUTF8? bytes).getD "").toList

def readEnvironment : IO (List (Text × Text)) :=
  settingVariables.filterMapM fun name => do
    return (← IO.getEnv name).map fun value => (name.toList, value.toList)

end IssueQuery

open IssueQuery in
def main (arguments : List String) : IO UInt32 := do
  let world : CommandLine.World IO := ⟨readFileIO, readStandardInput, ← readEnvironment⟩
  let outcome ← CommandLine.run world (arguments.map String.toList)
  match outcome with
  | .done output => IO.print (String.ofList output)
  | .usage => IO.eprintln "Usage: trackql [OPTIONS] <COMMAND>"
  | .failed f =>
    IO.eprintln ("Error: " ++ String.ofList f.context)
    if let some cause := f.causeText then
      IO.eprintln ("\nCaused by:\n    " ++ String.ofList cause)
  return UInt32.ofNat outcome.status
