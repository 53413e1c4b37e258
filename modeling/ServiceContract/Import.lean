import ServiceContract.Inquiry
import ServiceContract.Json.Reader
import ServiceContract.Number.Integer

/-!
# Checking imports

An import refers to the description of another service.  `Import.check` asks for it and lists what
keeps it from being one: it cannot be had, is not JSON, is no object, or lacks a name or a
namespace.  An address may be refused altogether, and an integer may have too many digits; both
stop the check without a message.
-/

namespace ServiceContract

namespace Import

/-- What stops the check of an import. -/
inductive Fault where
  | badAddress (reason : Text)
  | badPath (fault : Files.PathFault)
  | integer (fault : Number.IntegerFault)
  deriving DecidableEq, Repr

/-- The wording of a fault. -/
def Fault.message : Fault → Text
  | badAddress reason => reason
  | badPath fault => fault.message
  | integer fault => fault.message

/-- The keys of a description that must have texts. -/
def requiredKeys : List Text := ["name", "namespace"]

/-- The required keys that have no text. -/
def missingKeys (members : Json.Members) : List Text :=
  requiredKeys.filter fun key => ((members.get? key).bind Json.Value.text?).isNone

/-- What is wrong with the text fetched from an address. -/
def checkText (uri text : Text) : Except Fault (List Text) :=
  match Json.read text with
  | .error (.malformed complaint _) =>
    .ok ["Import[" ++ uri ++ "] did not return valid JSON: " ++ complaint.text]
  | .error .tooDeep => .ok ["Import[" ++ uri ++ "] did not return valid JSON: nesting is too deep"]
  | .error (.integerTooLong digits) => .error (.integer (.tooLong digits))
  | .ok (.object members) =>
    let missing := missingKeys members
    if missing.isEmpty then .ok []
    else .ok ["Import[" ++ uri ++ "] is not a valid service specification. Missing: " ++
      Text.join ", " missing]
  | .ok _ => .ok ["Import[" ++ uri ++ "] must be a JSON object"]

/-- What is wrong with the service at an address. -/
def check (uri : Text) : Inquiry Fault (List Text) :=
  .note (.fetching uri) <| .ask uri fun
    | .error (.unavailable reason) =>
      .note (.unavailable uri reason) <|
        .done (.ok ["Error fetching import[" ++ uri ++ "]: " ++ reason])
    | .error (.badAddress reason) => .done (.error (.badAddress reason))
    | .error (.badPath fault) => .done (.error (.badPath fault))
    | .ok text => .done (checkText uri text)

end Import

end ServiceContract
