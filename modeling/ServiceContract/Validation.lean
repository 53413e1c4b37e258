import ServiceContract.Draft.OfJson
import ServiceContract.Rule.Declaration
import ServiceContract.Rule.Import
import ServiceContract.Rule.PathParameter
import ServiceContract.Rule.Response
import ServiceContract.Service.Build
import ServiceContract.Service.Check

/-!
# Validating documents

A validation reads a document, runs all rules on its draft, builds the service and checks it as a
whole.  A document without a name is rejected for that alone; otherwise all rules are run, and the
service is built only if none of them has a message.  The rule for imports asks for documents, so
a validation is an inquiry, `inquire`; `validate` answers it by a fetcher.
-/

namespace ServiceContract

/-! ### Documents -/

/-- Why a text is no document. -/
inductive DocumentFault where
  | noData
  | malformed (complaint : Json.Complaint) (place : Json.Place)
  | unreadable
  | notAnObject
  deriving DecidableEq, Repr

/-- The wording of a fault. -/
def DocumentFault.message : DocumentFault → Text
  | noData => "No Data"
  | malformed complaint place => complaint.messageAt place
  | unreadable => "Invalid JSON"
  | notAnObject => "Must upload a Json Object"

/-- The object that a document holds. -/
def readDocument (text : Text) : Except DocumentFault Json.Members :=
  if text.isEmptyOrBlank then .error .noData
  else
    match Json.read text with
    | .error (.malformed complaint place) => .error (.malformed complaint place)
    | .error (.integerTooLong _) | .error .tooDeep => .error .unreadable
    | .ok (.object members) => .ok members
    | .ok _ => .error .notAnObject

/-! ### Validation -/

/-- What stops a validation before it has a result. -/
inductive Fault where
  | bound (fault : Draft.BoundFault)
  | imported (fault : Import.Fault)
  | code (fault : Number.IntegerFault)
  | build (fault : Service.BuildFault)
  deriving DecidableEq, Repr

/-- The wording of a fault. -/
def Fault.message : Fault → Text
  | bound fault => fault.message
  | imported fault => fault.message
  | code fault => fault.message
  | build fault => fault.message

/-- The result of a validation: the messages about a document, or its service. -/
inductive Verdict where
  | rejected (errors : List Text)
  | accepted (service : Service)
  deriving DecidableEq, Repr

/-- The messages of the rules that look at nothing but the draft and cannot stop, from the enums
to the parameters. -/
def elementErrors (d : Draft) : List Text :=
  Rule.enums d ++ Rule.unions d ++ Rule.headers d ++ Rule.fields d ++ Rule.operations d ++
    Rule.parameterBodies d ++ Rule.parameters d

/-- The messages of all rules, given what the rule for imports yields. -/
def ruleErrors (d : Draft) (imports : Except Import.Fault (List Text)) :
    Except Fault (List Text) := do
  let importErrors ← imports.mapError Fault.imported
  let responseErrors ← (Rule.responses d).mapError Fault.code
  return Rule.key d ++ importErrors ++ elementErrors d ++ responseErrors ++
    Rule.pathParameters d ++ Rule.pathParametersRequired d

/-- Builds and checks the service of a draft that follows all rules. -/
def buildAndCheck (c : Configuration) (d : Draft) : Except Fault Verdict := do
  let service ← (Service.build c d).mapError Fault.build
  return if service.errors.isEmpty then .accepted service else .rejected service.errors

/-- What is noted of a verdict about a service with the given name. -/
def Verdict.record (name : Text) : Verdict → Log.Record
  | rejected errors => .inconsistent name errors.length
  | accepted service => .accepted service.name

/-- The validation of a draft. -/
def inquireDraft (c : Configuration) (d : Draft) : Inquiry Fault Verdict :=
  match d.name with
  | none => return .rejected (Rule.requiredFields d)
  | some name => do
    let errors ← (Rule.imports d).mapOutcome (ruleErrors d)
    if errors.isEmpty then
      let verdict ← .done (buildAndCheck c d)
      .note (verdict.record name) (.done (.ok verdict))
    else .note (.brokenRules name errors.length) (.done (.ok (.rejected errors)))

/-- The validation of a document. -/
def inquire (c : Configuration) (text : Text) : Inquiry Fault Verdict :=
  match readDocument text with
  | .error fault => .note (.noDocument fault.message) (.done (.ok (.rejected [fault.message])))
  | .ok members =>
    match Draft.ofJson members with
    | .error fault => .done (.error (.bound fault))
    | .ok draft => inquireDraft c draft

/-- What comes of a validation. -/
abbrev Validation := Inquiry.Run Fault Verdict

/-- Validates a draft. -/
def validateDraft (c : Configuration) (fetch : Fetch) (d : Draft) : Validation :=
  (inquireDraft c d).run fetch

/-- Validates a document. -/
def validate (c : Configuration) (fetch : Fetch) (text : Text) : Validation :=
  (inquire c text).run fetch

end ServiceContract
