import IssueQuery.Formula.OfText
import IssueQuery.Json.Settings

namespace IssueQuery.CommandLine

/-- The options that every command takes, before its name or after it. -/
structure Options where
  schema : Option Text := none
  config : Option Text := none
  permitted : Option (List Text) := none
  pretty : Bool := false

/-- What the command line asks for. -/
inductive Command where
  | compile (query : Text) (mode : Mode)
  | sort (text : Text)
  | search (text : Text)
  | build (file : Text)
  | parse (text : Text)

structure Invocation where
  options : Options
  command : Command

/-- What has been read on one side of the command name. -/
structure Given where
  options : Options := {}
  mode : Option Mode := none
  positional : List Text := []

/-- Cuts a list of names at its commas. -/
def splitNames : Text → List Text
  | [] => [[]]
  | c :: t => if c = ',' then [] :: splitNames t else Text.consHead c (splitNames t)

/-- Sets an option that takes a value. Only `--permitted` may be repeated, and a file name is not
empty. -/
def Given.set? (g : Given) (takesMode : Bool) (name value : Text) : Option Given :=
  if name = "--schema".toList then
    if g.options.schema.isSome || value.isEmpty then none
    else some { g with options := { g.options with schema := some value } }
  else if name = "--config".toList then
    if g.options.config.isSome || value.isEmpty then none
    else some { g with options := { g.options with config := some value } }
  else if name = "--permitted".toList then
    some { g with options := { g.options with
      permitted := some (g.options.permitted.getD [] ++ splitNames value) } }
  else if name = "--mode".toList && takesMode && g.mode.isNone then
    (Mode.ofName? value).map fun mode => { g with mode := some mode }
  else none

/-- Whether an argument is an option: it starts with a dash and is not a dash alone. -/
def isOption : Text → Bool
  | '-' :: _ :: _ => true
  | _ => false

/-- The name of an option, and its value if it is written in one argument with it. -/
def splitValue (argument : Text) : Text × Option Text :=
  (argument.takeWhile (· != '='), (argument.dropWhile (· != '=')).tail?)

/-- Reads options up to the first argument that is none. Two dashes end the options for good, and the
last component tells whether they were met. -/
def readOptions (takesMode : Bool) (g : Given) : List Text → Option (Given × List Text × Bool)
  | [] => some (g, [], false)
  | argument :: rest =>
    if argument = ['-', '-'] then some (g, rest, true)
    else if !isOption argument then some (g, argument :: rest, false)
    else if argument = "--pretty".toList then
      if g.options.pretty then none
      else readOptions takesMode { g with options := { g.options with pretty := true } } rest
    else
      match splitValue argument with
      | (name, some value) => (g.set? takesMode name value).bind fun g => readOptions takesMode g rest
      | (name, none) =>
        match rest with
        | [] => none
        | value :: rest =>
          if isOption value then none
          else (g.set? takesMode name value).bind fun g => readOptions takesMode g rest

/-- Reads the options and the one positional argument of a command. -/
def readCommand? (takesMode : Bool) (arguments : List Text) : Option (Given × Text) := do
  let (g, rest, ended) ← readOptions takesMode {} arguments
  match rest, ended with
  | [text], true => some (g, text)
  | text :: rest, false =>
    let (g, rest, _) ← readOptions takesMode g rest
    if rest.isEmpty then some (g, text) else none
  | _, _ => none

/-- The options given after the command name come before those given in front of it. -/
def Options.or (after before : Options) : Options :=
  { schema := after.schema.or before.schema
    config := after.config.or before.config
    permitted := after.permitted.or before.permitted
    pretty := after.pretty || before.pretty }

/-- The command of this name. -/
def Command.ofName? (name text : Text) (mode : Option Mode) : Option Command :=
  if name = "compile".toList then some (.compile text (mode.getD .filter))
  else if name = "sort".toList then some (.sort text)
  else if name = "search".toList then some (.search text)
  else if name = "build".toList && !text.isEmpty then some (.build text)
  else if name = "parse".toList then some (.parse text)
  else none

/-- Reads the arguments of the program: options, the name of a command, and its options and text. -/
def Invocation.ofArguments? (arguments : List Text) : Option Invocation := do
  match ← readOptions false {} arguments with
  | (before, name :: rest, false) =>
    let (after, text) ← readCommand? (name = "compile".toList) rest
    let command ← Command.ofName? name text after.mode
    return ⟨after.options.or before.options, command⟩
  | _ => none

end IssueQuery.CommandLine
