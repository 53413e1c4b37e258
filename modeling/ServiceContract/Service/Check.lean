import ServiceContract.Service.Basic
import ServiceContract.Text.Order

/-!
# Checks of whole services

What can only be said about a service as a whole: names that are declared twice, empty enums and
unions, elements that occur twice, and labels and resources that refer to nothing declared.
-/

namespace ServiceContract.Service

/-- All declared names with their kinds, in document order. -/
def kindsOfNames (s : Service) : List (Text × TypeKind) :=
  (s.enums.map fun e => (e.name, .enumeration)) ++ (s.models.map fun m => (m.name, .model)) ++
    s.unions.map fun u => (u.name, .union)

/-- The kinds that a name is declared as. -/
def kindsOf (s : Service) (name : Text) : List TypeKind :=
  (s.kindsOfNames.filter fun (n, _) => n == name).map (·.2)

/-- No name is declared twice. -/
def typeNameErrors (s : Service) : List Text :=
  let names := (s.kindsOfNames.map (·.1)).eraseDups
  (names.filter fun name => 1 < (s.kindsOf name).length).map fun name =>
    "Name[" ++ name ++ "] cannot be used as the name of more than one type: " ++
      Text.join ", " ((s.kindsOf name).map TypeKind.name)

/-- The messages about the names that occur more than once in the element `label`. -/
def repeated (label : Text) (names : List Text) : List Text :=
  (Text.duplicates names).map fun name => label ++ "[" ++ name ++ "] appears more than once"

/-- An enum has values, each once. -/
def enumErrors (e : Enum) : List Text :=
  (if e.values.isEmpty then ["Enum[" ++ e.name ++ "] must have at least one value"] else []) ++
    repeated ("Enum[" ++ e.name ++ "] value") (e.values.map (·.name))

/-- A model has each field once. -/
def modelErrors (m : Model) : List Text :=
  repeated ("Model[" ++ m.name ++ "] field") (m.fields.map (·.name))

/-- A union has members, and each of them resolves. -/
def unionErrors (types : Declarations) (u : Union) : List Text :=
  (if u.members.isEmpty then ["Union[" ++ u.name ++ "] must have at least one type"] else []) ++
    (u.members.filter fun m => (types.resolveText? m.type).isNone).map fun m =>
      "Union[" ++ u.name ++ "] type[" ++ m.type ++ "] not found"

/-- The message about a header whose type does not resolve. -/
def invalidHeader (h : Header) : Text :=
  "Header[" ++ h.name ++ "] type[" ++ h.type ++ "] is invalid"

/-- The types of headers resolve, and each header is there once. -/
def headerErrors (s : Service) : List Text :=
  ((s.headers.filter fun h => (s.declarations.resolveText? h.type).isNone).map invalidHeader) ++
    repeated "Header" (s.headers.map (·.name))

/-- The method and the path of an operation. -/
def Operation.label (op : Operation) : Text := op.method.name ++ " " ++ op.path

/-- A resource is about a declared type, and has each operation once. -/
def resourceErrors (types : Declarations) (r : Resource) : List Text :=
  (if types.names.contains r.type then []
    else ["Resource[" ++ r.type ++ "] type not found. " ++
      "Resources must refer to a declared enum, model or union"]) ++
    repeated ("Resource[" ++ r.type ++ "] operation") (r.operations.map Operation.label)

/-- All that is wrong with a service as a whole. -/
def errors (s : Service) : List Text :=
  s.typeNameErrors ++ s.enums.flatMap enumErrors ++ s.models.flatMap modelErrors ++
    s.unions.flatMap (unionErrors s.declarations) ++ s.headerErrors ++
    s.resources.flatMap (resourceErrors s.declarations)

end ServiceContract.Service
