import ServiceContract.CommandLine.Request
import ServiceContract.ConfigurationFile
import ServiceContract.Json.Printer
import ServiceContract.Service.Json
import ServiceContract.Text.ControlSequence
import ServiceContract.Validation
import ServiceContract.Web

/-!
# Runs

`run` carries out a command line in a `World`: the files and the environment, the web, what reads
YAML and what writes the log.  It ends with what is to be printed, unless a `Stop` keeps the program
from coming to an end by itself.

What is printed has no control sequences in it.  The output cannot hold surrogates; in complaints
they are written as escapes.  The log of a run stands before its complaints.
-/

namespace ServiceContract.CommandLine

/-- What stops a run. -/
inductive Stop where
  /-- The environment has no settings. -/
  | settings (fault : Settings.Fault)
  /-- The level that the settings give for the log is none. -/
  | logLevel (name : Text)
  /-- A path on the command line cannot be looked up. -/
  | badPath (fault : Files.PathFault)
  /-- The file of the configuration cannot be read as one. -/
  | configuration (fault : Configuration.FileFault)
  /-- The document cannot be read. -/
  | document (fault : Files.ReadFault)
  /-- The validation has no result. -/
  | validation (fault : Fault)
  /-- The service holds a text that cannot be part of a JSON document. -/
  | serialization (fault : EncodeFault)
  /-- The output cannot be printed. -/
  | output (fault : EncodeFault)
  deriving DecidableEq, Repr

/-- The wording of a service that is no JSON document. -/
def serializationMessage (fault : EncodeFault) : String :=
  "Error serializing to JSON: UnicodeEncodeError: " ++ fault.message

/-- The wording of a stop. -/
def Stop.message : Stop → Text
  | settings fault => fault.message
  | logLevel name => "Unknown level: " ++ name.quoted
  | badPath fault => fault.message
  | configuration fault => fault.message
  | document fault => fault.message
  | validation fault => fault.message
  | serialization fault => serializationMessage fault
  | output fault => fault.message

/-! ### Reports -/

/-- The report on the type that a label denotes. -/
def resolveReport (text : Text) (types : Declarations) : Report :=
  let label := Label.ofText text
  let warnings := Text.ofLines (label.warnings.map fun w => "Warning: " ++ w)
  match types.resolve? label with
  | none =>
    { exitCode := 1, complaints := warnings ++ "Type[" ++ label.name ++ "] not found\n" }
  | some type => {
      output := type.label ++ ": " ++ type.form ++ "(" ++ type.ref.kind.name ++ " " ++
        type.ref.name ++ ")\n"
      complaints := warnings }

/-- The report on a document that was rejected. -/
def rejection (path : Text) (errors : List Text) : Report where
  exitCode := 1
  complaints := path ++ " has " ++ toString errors.length ++ " error(s):\n" ++
    Text.ofLines (errors.map fun e => "  - " ++ e)

/-- A service in one line. -/
def summary (s : Service) : Text :=
  let operations := (s.resources.flatMap (·.operations)).length
  "Service " ++ s.name ++ " (" ++ s.nameSpace ++ ") is valid: " ++
    toString s.models.length ++ " models, " ++ toString s.enums.length ++ " enums, " ++
    toString s.unions.length ++ " unions, " ++ toString s.resources.length ++ " resources, " ++
    toString operations ++ " operations"

/-- A service as a JSON document. -/
def document (s : Service) : Except Stop Text :=
  match s.toJson.encodeFault? with
  | some fault => .error (.serialization fault)
  | none => .ok s.toJson.print

/-- The report on a verdict about the document at a path. -/
def verdictReport (path : Text) (asJson : Bool) : Verdict → Except Stop Report
  | .rejected errors => .ok (rejection path errors)
  | .accepted service => do
    let shown ← if asJson then document service else .ok (summary service)
    return { output := shown ++ "\n" }

/-! ### Carrying out -/

/-- The configuration of a run, or the report on why there is none. -/
def loadConfiguration (readYaml : Yaml.Reader) (files : Files.Tree)
    (config version : Option Text) : Except Stop (Except Report Configuration) :=
  let loaded : Except Configuration.FileFault Configuration :=
    match config with
    | none => .ok {}
    | some path => Configuration.load readYaml files path
  match loaded with
  | .ok c =>
    match version with
    | none | some [] => .ok (.ok c)
    | some version => .ok (.ok { c with version })
  | .error fault =>
    if fault.isOfConfiguration then
      .ok (.error ((UsageFault.badConfiguration fault.message).report (.command .validate)))
    else .error (.configuration fault)

/-- Validates the document at a path. -/
def validateFile (files : Files.Tree) (fetch : Fetch) (c : Configuration) (path : Text)
    (asJson : Bool) : Except Stop Report := do
  let text ← (files.readText path).mapError Stop.document
  let validation := validate c fetch text
  let verdict ← validation.outcome.mapError Stop.validation
  let report ← verdictReport (Files.normalize path) asJson verdict
  return { report with noted := validation.noted }

/-- Carries out a request. -/
def carryOut (readYaml : Yaml.Reader) (files : Files.Tree) (fetch : Fetch) :
    Request → Except Stop Report
  | .resolve label types => .ok (resolveReport label types)
  | .validate document config version asJson => do
    match ← loadConfiguration readYaml files config version with
    | .error report => return report
    | .ok c => validateFile files fetch c document asJson

/-- The report of a refusal, or a stop. -/
def refuse : Refusal → Except Stop Report
  | .page topic => .ok { output := topic.page }
  | .empty => .ok { exitCode := 2, complaints := Topic.program.page }
  | .usage topic fault => .ok (fault.report topic)
  | .badPath fault => .error (.badPath fault)

/-- The level from which on records are shown: in a verbose run the one of debugging, and otherwise
the one that the settings name. -/
def logLevel (settings : Settings) (isVerbose : Bool) : Except Stop Log.Level :=
  if isVerbose then .ok .debug
  else
    match Log.Level.ofName? settings.logLevel with
    | some level => .ok level
    | none => .error (.logLevel settings.logLevel)

/-- What a run meets with. -/
structure World where
  files : Files.Tree := {}
  environment : Settings.Environment := []
  send : Web.Request → Web.Reply
  readYaml : Yaml.Reader
  writer : Log.Writer

/-- What is read of a command line is carried out. -/
def answer (w : World) (settings : Settings) (call : Call) : Except Stop Report :=
  match readRequest w.files call.command call.words with
  | .error refusal => refuse refusal
  | .ok request => carryOut w.readYaml w.files (Web.fetch settings w.files w.send) request

/-! ### Printing -/

/-- What a run prints, and the code that it ends with. -/
structure Printed where
  exitCode : Nat
  output : String
  complaints : String
  deriving DecidableEq, Repr

/-- A report as it is printed, without the log. -/
def Report.print (r : Report) : Except Stop Printed := do
  let output ← r.output.withoutControlSequences.encode.mapError Stop.output
  return ⟨r.exitCode, output, r.complaints.withoutControlSequences.escapeSurrogates⟩

/-- What is printed, with a log in front of the complaints. -/
def Printed.withLog (log : String) (p : Printed) : Printed :=
  { p with complaints := log ++ p.complaints }

/-- Carries out a command line. -/
def run (w : World) (words : List Text) : Except Stop Printed :=
  match readCall words with
  | .error refusal => refuse refusal >>= Report.print
  | .ok call => do
    let settings ← (Settings.ofEnvironment w.environment).mapError Stop.settings
    let level ← logLevel settings call.isVerbose
    let report ← answer w settings call
    return (← report.print).withLog (Log.written w.writer level report.noted)

/-- A world without files, the web, YAML and a log. -/
def World.empty : World where
  send _ := .error "no network"
  readYaml _ := .error .malformed
  writer.record _ _ := ""

example : run .empty ["resolve", "[user]", "--model", "user"] =
    .ok ⟨0, "[user]: ListOf(model user)\n", ""⟩ := by rfl

end ServiceContract.CommandLine
