import ServiceContract.Draft.Basic
import ServiceContract.Method

/-!
# Rules for operations, bodies and parameters

Each rule goes through the operations of all resources in document order.  Query parameters are
those of an operation with the method `GET` or with a body; their types are primitives and enums,
or lists of these.
-/

namespace ServiceContract.Rule

/-- The operations of all resources, in document order. -/
def operationsOf (d : Draft) : List (Draft.Resource × Draft.Operation) :=
  d.resources.flatMap fun r => r.operations.map fun op => (r, op)

/-- How messages refer to a resource. -/
def resourceLabel (r : Draft.Resource) : Text := "Resource[" ++ r.type.text ++ "]"

/-- How messages refer to an operation. -/
def operationLabel (r : Draft.Resource) (op : Draft.Operation) : Text :=
  resourceLabel r ++ " " ++ op.label

/-- Operations have no warnings. -/
def operations (d : Draft) : List Text :=
  ((operationsOf d).filter fun (_, op) => !op.warnings.isEmpty).map fun (r, op) =>
    operationLabel r op ++ ": " ++ Text.join ", " op.warnings

/-- What is wrong with the body of an operation. -/
def operationBody (types : Declarations) (r : Draft.Resource) (op : Draft.Operation) :
    List Text :=
  match op.body with
  | none => []
  | some body =>
    match body.type with
    | none => [operationLabel r op ++ ": Body missing type"]
    | some label =>
      if (types.resolve? label).isNone then
        [operationLabel r op ++ ": Body has an invalid type[" ++ label.name ++ "]"]
      else []

/-- A body has a type that resolves. -/
def parameterBodies (d : Draft) : List Text :=
  (operationsOf d).flatMap fun (r, op) => operationBody d.declarations r op

/-! ### Parameters -/

/-- Whether the parameters of an operation are taken from the query. -/
def usesQuery (op : Draft.Operation) : Bool :=
  match op.method with
  | none => false
  | some method => op.body.isSome || Method.ofText? method == some .get

/-- What keeps a type from being that of a query parameter. -/
def queryTypeError? (type : Datatype) (label : Label) : Option Text :=
  match type with
  | .mapOf _ =>
    some ("has an invalid type[" ++ label.text ++
      "]. Maps are not supported as query parameters.")
  | _ =>
    if type.ref.kind = .model ∨ type.ref.kind = .union then
      some ("has an invalid type[" ++ label.name ++
        "]. Model and union types are not supported as query parameters.")
    else none

/-- What a parameter lacks. -/
def missingPart (r : Draft.Resource) (op : Draft.Operation) (p : Draft.Parameter) : List Text :=
  match p.name, p.type with
  | none, _ => [operationLabel r op ++ ": Missing name"]
  | some name, none => [operationLabel r op ++ ": Parameter[" ++ name ++ "] is missing a type"]
  | some _, some _ => []

/-- What is wrong with the type of a parameter that has a name and a type. -/
def parameterType (types : Declarations) (r : Draft.Resource) (op : Draft.Operation)
    (p : Draft.Typed) : List Text :=
  let label := operationLabel r op ++ ": Parameter[" ++ p.name ++ "] "
  match types.resolve? p.type with
  | none => [label ++ "has an invalid type: " ++ p.type.text]
  | some type =>
    if usesQuery op then ((queryTypeError? type p.type).map (label ++ ·)).toList else []

/-- Every parameter has a name and a type that resolves, and query parameters are simple. -/
def parameters (d : Draft) : List Text :=
  ((operationsOf d).flatMap fun (r, op) => op.parameters.flatMap (missingPart r op)) ++
    (operationsOf d).flatMap fun (r, op) =>
      op.typedParameters.flatMap (parameterType d.declarations r op)

end ServiceContract.Rule
