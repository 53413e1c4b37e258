import ServiceContract.Configuration
import ServiceContract.Files.Tree
import ServiceContract.Yaml.Document

/-!
# Configuration files

A configuration file is a YAML mapping from the names of fields to texts, or to octets that spell
texts.  A field that is not there has its default, a name that is no field's is passed over, and of
several values for a name the last one counts.  A file without content yields the default
configuration.  The YAML is read by whatever `Yaml.Reader` is at hand.
-/

namespace ServiceContract.Configuration

/-- The names of the fields, in the order in which faults list them. -/
def fieldNames : List Text := ["org_key", "org_namespace", "version"]

/-- Why a file yields no configuration. -/
inductive FileFault where
  /-- The path leads to no file. -/
  | unopened (path : Text) (fault : Files.OpenFault)
  /-- The path cannot be looked up. -/
  | badPath (fault : Files.PathFault)
  /-- The file is not UTF-8. -/
  | encoding (fault : Text.Utf8Fault)
  /-- The file is not YAML. -/
  | notYaml (path : Text)
  /-- Something in the file has no value. -/
  | noValue (reason : Text)
  /-- A number in the file exceeds what can be held. -/
  | tooLarge (reason : Text)
  /-- The file holds something else than a mapping. -/
  | notAMapping (path : Text)
  /-- A key of the mapping is not a text. -/
  | keyNotText
  /-- Some fields, in order, have values that are no texts. -/
  | fieldsNotTexts (path : Text) (fields : List Text)
  deriving DecidableEq, Repr

/-- The wording of a fault. -/
def FileFault.message : FileFault → Text
  | unopened path fault => "Cannot read config file " ++ path ++ ": " ++ fault.message path
  | badPath fault => fault.message
  | encoding fault => fault.message
  | notYaml path => "Invalid YAML in " ++ path
  | noValue reason | tooLarge reason => reason
  | notAMapping path => "Config file " ++ path ++ " must contain a mapping"
  | keyNotText => "the names of fields must be texts"
  | fieldsNotTexts path _ => "Invalid config file " ++ path

/-- Whether the fault is one of the configuration: the file cannot be opened, or what it says is
no configuration.  The other faults lie in the spelling of the path or of the content. -/
def FileFault.isOfConfiguration : FileFault → Bool
  | unopened .. | notYaml _ | notAMapping _ | fieldsNotTexts .. => true
  | badPath _ | encoding _ | noValue _ | tooLarge _ | keyNotText => false

/-- Pairs whose keys are texts. -/
def textPairs? (pairs : List (Yaml.Value × Yaml.Value)) : Option (List (Text × Yaml.Value)) :=
  pairs.mapM fun (key, value) =>
    match key with
    | .text key => some (key, value)
    | _ => none

/-- The last value of a name. -/
def lastValue? (pairs : List (Text × Yaml.Value)) (name : Text) : Option Yaml.Value :=
  pairs.reverse.lookup name

/-- The text that a value yields for a field: its own, or the one that its octets spell. -/
def fieldText? : Yaml.Value → Option Text
  | .text s => some s
  | .octets content => (Text.decode content).toOption
  | .null | .other => none

/-- Whether a field has a value that yields no text. -/
def isWrong (pairs : List (Text × Yaml.Value)) (name : Text) : Bool :=
  (lastValue? pairs name).any fun value => (fieldText? value).isNone

/-- The text of a field, or its default. -/
def fieldText (pairs : List (Text × Yaml.Value)) (name fallback : Text) : Text :=
  ((lastValue? pairs name).bind fieldText?).getD fallback

/-- The configuration that the content of the file at `path` describes. -/
def ofYaml (path : Text) : Yaml.Document → Except FileFault Configuration
  | .null => .ok {}
  | .mapping pairs =>
    match textPairs? pairs with
    | none => .error .keyNotText
    | some pairs =>
      let wrong := fieldNames.filter (isWrong pairs)
      let initial : Configuration := {}
      if wrong.isEmpty then
        .ok {
          orgKey := fieldText pairs "org_key" initial.orgKey
          orgNamespace := fieldText pairs "org_namespace" initial.orgNamespace
          version := fieldText pairs "version" initial.version }
      else .error (.fieldsNotTexts path wrong)
  | .other => .error (.notAMapping path)

/-- The configuration of the file that a path leads to. -/
def load (readYaml : Yaml.Reader) (files : Files.Tree) (path : Text) :
    Except FileFault Configuration :=
  let path := Files.normalize path
  match files.readText path with
  | .error (.unopened path fault) => .error (.unopened path fault)
  | .error (.badPath fault) => .error (.badPath fault)
  | .error (.encoding fault) => .error (.encoding fault)
  | .ok text =>
    match readYaml text with
    | .error .malformed => .error (.notYaml path)
    | .error (.noValue reason) => .error (.noValue reason)
    | .error (.tooLarge reason) => .error (.tooLarge reason)
    | .ok value => ofYaml path value

end ServiceContract.Configuration
