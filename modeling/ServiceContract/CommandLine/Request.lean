import ServiceContract.CommandLine.Usage
import ServiceContract.Datatype.Resolution
import ServiceContract.Files.Tree

/-!
# Requests

A command line is read in two steps: `readCall` finds the command, and `readRequest` what is
asked of it.  Both may find that a page about the use is asked for instead.  The paths on a
command line must lead to files; they are looked at in the order in which they take effect, the
switches before the arguments.
-/

namespace ServiceContract.CommandLine

/-- What a command is asked to do. -/
inductive Request where
  | resolve (label : Text) (types : Declarations)
  | validate (document : Text) (config version : Option Text) (asJson : Bool)
  deriving DecidableEq, Repr

/-- Why a command line is no request. -/
inductive Refusal where
  /-- A page is asked for. -/
  | page (topic : Topic)
  /-- Nothing is asked for. -/
  | empty
  /-- The use of the topic is another. -/
  | usage (topic : Topic) (fault : UsageFault)
  /-- A path cannot be looked up. -/
  | badPath (fault : Files.PathFault)
  deriving DecidableEq, Repr

/-! ### The command -/

/-- The switches of the program. -/
inductive ProgramSwitch where
  | verbose
  | help
  deriving DecidableEq

/-- The grammar of the program: what follows the name of the command is left to the command. -/
def programGrammar : Grammar ProgramSwitch where
  switches := [
    { key := .verbose, name := "--verbose", letter := some 'v' },
    { key := .help, name := "--help" }]
  mixed := false

/-- Splits a command line of a topic, unless its page is asked for. -/
def splitFor {κ : Type} [DecidableEq κ] (t : Topic) (g : Grammar κ) (help : κ)
    (words : List Text) : Except Refusal (Split κ) :=
  match g.split words with
  | .error fault => .error (.usage t (.split fault))
  | .ok split => if split.sets help then .error (.page t) else .ok split

/-- The refusal of a name that is no command's.  A name that looks like a switch is read once more
as one. -/
def unknownCommand (name : Text) (rest : List Text) : Refusal :=
  match splitFor .program programGrammar .help (name :: rest) with
  | .error refusal => refusal
  | .ok _ => .usage .program (.unknownCommand name)

/-- A command line in which the command is known: whether the run is to be verbose, the command,
and the words that are left for it. -/
structure Call where
  isVerbose : Bool
  command : Command
  words : List Text
  deriving DecidableEq, Repr

/-- Finds the command. -/
def readCall (words : List Text) : Except Refusal Call :=
  if words.isEmpty then .error .empty
  else do
    let split ← splitFor .program programGrammar .help words
    match split.arguments with
    | [] => .error (.usage .program .missingCommand)
    | name :: rest =>
      match Command.ofName? name with
      | some command => .ok ⟨split.sets .verbose, command, rest⟩
      | none => .error (unknownCommand name rest)

/-! ### What is asked of it -/

/-- The switches of `resolve`. -/
inductive ResolveSwitch where
  | enumeration
  | model
  | union
  | help
  deriving DecidableEq

/-- The grammar of `resolve`. -/
def resolveGrammar : Grammar ResolveSwitch where
  switches := [
    { key := .enumeration, name := "--enum", takesValue := true },
    { key := .model, name := "--model", takesValue := true },
    { key := .union, name := "--union", takesValue := true },
    { key := .help, name := "--help" }]
  mixed := true

/-- The switches of `validate`. -/
inductive ValidateSwitch where
  | config
  | version
  | json
  | help
  deriving DecidableEq

/-- The grammar of `validate`. -/
def validateGrammar : Grammar ValidateSwitch where
  switches := [
    { key := .config, name := "--config", takesValue := true },
    { key := .version, name := "--version", takesValue := true },
    { key := .json, name := "--json" },
    { key := .help, name := "--help" }]
  mixed := true

/-- Makes sure that a path leads to a file; `name` is what the path is given for. -/
def checkPath (files : Files.Tree) (t : Topic) (name path : Text) : Except Refusal Unit := do
  let octets ← (Files.octetsOf path).mapError Refusal.badPath
  let problem (p : PathProblem) := Refusal.usage t (.badPath name (Text.decodeLossy octets) p)
  match files.entry octets with
  | .ok (.file _) => return ()
  | .ok .directory => .error (problem .directory)
  | .error _ => .error (problem .missing)

/-- The only argument of a command; `name` is what it is given for. -/
def theArgument (t : Topic) (name : Text) (arguments : List Text)
    (check : Text → Except Refusal Unit) : Except Refusal Text :=
  match arguments with
  | [] => .error (.usage t (.missingArgument name))
  | argument :: extra => do
    check argument
    if extra.isEmpty then return argument else .error (.usage t (.extraArguments extra))

/-- What is asked of `resolve`. -/
def readResolve (words : List Text) : Except Refusal Request := do
  let topic := Topic.command .resolve
  let split ← splitFor topic resolveGrammar .help words
  let label ← theArgument topic "LABEL" split.arguments fun _ => .ok ()
  return .resolve label ⟨split.values .enumeration, split.values .model, split.values .union⟩

/-- What is asked of `validate`. -/
def readValidate (files : Files.Tree) (words : List Text) : Except Refusal Request := do
  let topic := Topic.command .validate
  let split ← splitFor topic validateGrammar .help words
  let config := split.value? .config
  if let some path := config then checkPath files topic "--config" path
  let document ← theArgument topic "DOC_PATH" split.arguments (checkPath files topic "DOC_PATH")
  return .validate document config (split.value? .version) (split.sets .json)

/-- What is asked of a command. -/
def readRequest (files : Files.Tree) : Command → List Text → Except Refusal Request
  | .resolve, words => readResolve words
  | .validate, words => readValidate files words

end ServiceContract.CommandLine
