import ServiceContract.CommandLine.Arguments
import ServiceContract.Log

/-!
# Usage

The program has two commands.  This module holds what it says about its use: the pages that
describe the program and the commands, and the messages about a command line that asks for
nothing the program can do.
-/

namespace ServiceContract.CommandLine

/-- What a run has to say, the records that it noted before, and the code that it ends with. -/
structure Report where
  exitCode : Nat := 0
  output : Text := ""
  complaints : Text := ""
  noted : List Log.Record := []
  deriving DecidableEq, Repr

/-- The commands of the program. -/
inductive Command where
  | resolve
  | validate
  deriving DecidableEq, Repr

/-- The name of a command. -/
def Command.name : Command → Text
  | resolve => "resolve"
  | validate => "validate"

/-- All commands. -/
def Command.all : List Command := [resolve, validate]

/-- The command of a name. -/
def Command.ofName? (name : Text) : Option Command :=
  all.find? (·.name == name)

/-- The names of commands that are similar to one that is no command's. -/
def Command.similar (name : Text) : List Text := Text.similar (all.map Command.name) name

/-! ### Pages -/

/-- What a page is about: the program or one of its commands. -/
inductive Topic where
  | program
  | command (command : Command)
  deriving DecidableEq, Repr

namespace Topic

/-- How the topic is called on the command line. -/
def call : Topic → Text
  | program => "main"
  | command c => "main " ++ c.name

/-- What follows the call. -/
def parameters : Topic → Text
  | program => "[OPTIONS] COMMAND [ARGS]..."
  | command .resolve => "[OPTIONS] LABEL"
  | command .validate => "[OPTIONS] DOC_PATH"

/-- The first line of a page. -/
def usage (t : Topic) : Text := "Usage: " ++ t.call ++ " " ++ t.parameters ++ "\n"

/-- The lines of a page below the first. -/
def description : Topic → List Text
  | program => [
    "  API JSON Validator: check api.json service specifications.",
    "",
    "Options:",
    "  -v, --verbose  Enable debug logging.",
    "  --help         Show this message and exit.",
    "",
    "Commands:",
    "  resolve   Show how a datatype label resolves.",
    "  validate  Validate an api.json document."]
  | command .resolve => [
    "  Show how a datatype label resolves.",
    "",
    "Options:",
    "  --enum TEXT   Declared enum name (repeatable).",
    "  --model TEXT  Declared model name (repeatable).",
    "  --union TEXT  Declared union name (repeatable).",
    "  --help        Show this message and exit."]
  | command .validate => [
    "  Validate an api.json document.",
    "",
    "Options:",
    "  --config FILE   YAML file with org_key, org_namespace and version.",
    "  --version TEXT  Version of the service being validated.",
    "  --json          Print the built service as JSON.",
    "  --help          Show this message and exit."]

/-- The page of a topic. -/
def page (t : Topic) : Text :=
  t.usage ++ "\n" ++ Text.ofLines t.description

/-- What stands above a message about the use of a topic. -/
def hint (t : Topic) : Text :=
  t.usage ++ "Try '" ++ t.call ++ " --help' for help.\n\n"

end Topic

/-! ### Messages -/

/-- What is wrong with a path to a file that is to be read. -/
inductive PathProblem where
  | missing
  | directory
  deriving DecidableEq, Repr

/-- The wording of a problem. -/
def PathProblem.text : PathProblem → Text
  | missing => "does not exist"
  | directory => "is a directory"

/-- What is wrong with a command line. -/
inductive UsageFault where
  | split (fault : SplitFault)
  | missingCommand
  | unknownCommand (name : Text)
  | missingArgument (name : Text)
  | extraArguments (words : List Text)
  | badPath (name path : Text) (problem : PathProblem)
  | badConfiguration (message : Text)
  deriving DecidableEq, Repr

namespace UsageFault

/-- The wording of a fault. -/
def message : UsageFault → Text
  | split fault => fault.message
  | missingCommand => "Missing command."
  | unknownCommand name =>
    "No such command " ++ name.quoted ++ "." ++ suggestion (Command.similar name)
  | missingArgument name => "Missing argument '" ++ name ++ "'."
  | extraArguments words =>
    "Got unexpected extra argument" ++ (if words.length = 1 then "" else "s") ++
      " (" ++ Text.join " " words ++ ")"
  | badPath name path problem =>
    "Invalid value for '" ++ name ++ "': File " ++ path.quoted ++ " " ++ problem.text ++ "."
  | badConfiguration message => "Invalid value for --config: " ++ message

/-- Whether the fault lies in the value of a switch being there or not; such a message stands
alone. -/
def isAboutValue : UsageFault → Bool
  | split (.missingValue _) | split (.unexpectedValue _) => true
  | _ => false

/-- The report of a fault. -/
def report (fault : UsageFault) (t : Topic) : Report where
  exitCode := 2
  complaints :=
    let hint : Text := if fault.isAboutValue then "" else t.hint
    hint ++ "Error: " ++ fault.message ++ "\n"

end UsageFault

example : (UsageFault.extraArguments ["a", "b"]).message =
    "Got unexpected extra arguments (a b)" := by decide

end ServiceContract.CommandLine
