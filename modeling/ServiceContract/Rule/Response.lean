import ServiceContract.Number.Integer
import ServiceContract.Rule.Operation
import ServiceContract.Text.Order

/-!
# Rules for methods and responses

The code of a response is read as an integer when it is written with digits alone, after at most a
minus sign.  As soon as one code of the service cannot be read so, the checks that depend on codes
are left out for all operations.  A code with too many digits stops the rule.
-/

namespace ServiceContract.Rule

/-- The integer that a code is written as, if it is written as one. -/
def readCode (code : Text) : Except Number.IntegerFault (Option Int) :=
  if Number.isSignedNumeral code then (Number.readInteger code).map some else .ok none

/-- The code of a response is an integer with the property. -/
def codeSatisfies (p : Int → Bool) (response : Draft.Response) : Bool :=
  match readCode response.code with
  | .ok (some n) => p n
  | _ => false

/-- The responses of all operations, in document order. -/
def responsesOf (d : Draft) : List (Draft.Resource × Draft.Operation × Draft.Response) :=
  (operationsOf d).flatMap fun (r, op) => op.responses.map fun response => (r, op, response)

/-! ### Methods, codes and types -/

/-- What is wrong with the method of an operation. -/
def operationMethod (r : Draft.Resource) (op : Draft.Operation) : List Text :=
  match op.method with
  | none => [resourceLabel r ++ " " ++ op.path ++ " Missing HTTP method"]
  | some method =>
    if (Method.ofText? method).isSome then []
    else [resourceLabel r ++ " " ++ op.path ++ " Invalid HTTP method[" ++ method ++
      "]. Must be one of: " ++ Text.join ", " (Method.all.map Method.name)]

/-- The message about a code that is no integer. -/
def unreadableCode (r : Draft.Resource) (op : Draft.Operation) (response : Draft.Response) :
    Text :=
  operationLabel r op ++ ": Response code is not an integer[" ++ response.code ++ "]"

/-- The messages about all codes that are no integers. -/
def unreadableCodes (d : Draft) : Except Number.IntegerFault (List Text) := do
  let messages ← (responsesOf d).mapM fun (r, op, response) =>
    (readCode response.code).map fun code =>
      if code.isNone then [unreadableCode r op response] else []
  return messages.flatten

/-- What is wrong with the type of a response. -/
def responseType (types : Declarations) (r : Draft.Resource) (op : Draft.Operation)
    (response : Draft.Response) : List Text :=
  let label := operationLabel r op ++ " with response code[" ++ response.code ++ "]"
  match response.type with
  | none => [label ++ ": Missing type"]
  | some type =>
    if (types.resolve? type).isNone then
      [label ++ " has an invalid type[" ++ type.name ++ "]."]
    else []

/-! ### Checks that depend on codes -/

/-- A code of success. -/
def isSuccess (code : Int) : Bool := 200 ≤ code && code < 300

/-- A code that no operation may declare. -/
def isReserved (code : Int) : Bool := code == 404 || 500 ≤ code

/-- A code of a response without content. -/
def hasNoContent (code : Int) : Bool := code == 204 || code == 304

/-- The labels of the successful responses of an operation, each once. -/
def successLabels (op : Draft.Operation) : List Text :=
  ((op.responses.filter (codeSatisfies isSuccess)).filterMap fun response =>
    response.type.map (·.text)).eraseDups

/-- The successful responses of an operation have one label. -/
def mixedSuccess (r : Draft.Resource) (op : Draft.Operation) : List Text :=
  if 1 < (successLabels op).length then
    [resourceLabel r ++ " cannot have varying response types for 2xx response codes: " ++
      Text.join ", " (Text.sorted (successLabels op))]
  else []

/-- An operation declares no reserved code; the first one is reported. -/
def reservedCode (r : Draft.Resource) (op : Draft.Operation) : List Text :=
  match op.responses.find? (codeSatisfies isReserved) with
  | none => []
  | some response =>
    [operationLabel r op ++ " has a response with code[" ++ response.code ++
      "] - this code cannot be explicitly specified"]

/-- A response without content has the type `unit`. -/
def contentType (r : Draft.Resource) (op : Draft.Operation) (response : Draft.Response) :
    List Text :=
  match response.type with
  | none => []
  | some type =>
    if codeSatisfies hasNoContent response && type.name != Primitive.unit.name then
      [operationLabel r op ++ " Responses w/ code[" ++ response.code ++
        "] must return unit and not[" ++ type.text ++ "]"]
    else []

/-- The messages that depend on codes. -/
def codeErrors (d : Draft) : List Text :=
  ((operationsOf d).flatMap fun (r, op) => mixedSuccess r op) ++
    ((operationsOf d).flatMap fun (r, op) => reservedCode r op) ++
    (responsesOf d).flatMap fun (r, op, response) => contentType r op response

/-! ### The rule -/

/-- The warnings of a response in one message. -/
def responseWarnings (r : Draft.Resource) (op : Draft.Operation) (response : Draft.Response) :
    List Text :=
  if response.warnings.isEmpty then []
  else [resourceLabel r ++ " " ++ op.methodText ++ " " ++ response.code ++ ": " ++
    Text.join ", " response.warnings]

/-- Operations have known methods, and responses have readable codes, types that resolve and fit
their codes, and no warnings. -/
def responses (d : Draft) : Except Number.IntegerFault (List Text) := do
  let unreadable ← unreadableCodes d
  return ((operationsOf d).flatMap fun (r, op) => operationMethod r op) ++
    unreadable ++
    ((responsesOf d).flatMap fun (r, op, response) => responseType d.declarations r op response) ++
    (if unreadable.isEmpty then codeErrors d else []) ++
    (responsesOf d).flatMap fun (r, op, response) => responseWarnings r op response

end ServiceContract.Rule
