import ServiceContract.Datatype.Label
import ServiceContract.Datatype.Resolution
import ServiceContract.Number.Binary64
import ServiceContract.Path

/-!
# Drafts of services

A `Draft` holds what a document says before anything about it has been checked: every part that a
service needs may be missing, and the elements that can be written wrongly carry the warnings that
reading them drew.
-/

namespace ServiceContract

namespace Draft

/-- A reference to another service. -/
structure Import where
  uri : Option Text
  deriving DecidableEq, Repr

/-- A header of all requests. -/
structure Header where
  name : Option Text
  type : Option Label
  required : Bool
  fallback : Option Text
  description : Option Text
  deriving DecidableEq, Repr

/-- A value of an enum. -/
structure EnumValue where
  name : Option Text
  description : Option Text
  deriving DecidableEq, Repr

/-- An enum. -/
structure Enum where
  name : Text
  description : Option Text
  values : List EnumValue
  deriving DecidableEq, Repr

/-- A member of a union. -/
structure UnionMember where
  type : Option Label
  description : Option Text
  deriving DecidableEq, Repr

/-- A union. -/
structure Union where
  name : Text
  description : Option Text
  members : List UnionMember
  deriving DecidableEq, Repr

/-- A field of a model. -/
structure Field where
  name : Option Text
  type : Option Label
  required : Bool
  fallback : Option Text
  description : Option Text
  sample : Option Text
  minimum : Option Number.Binary64
  maximum : Option Number.Binary64
  warnings : List Text
  deriving DecidableEq, Repr

/-- A model. -/
structure Model where
  name : Text
  description : Option Text
  fields : List Field
  deriving DecidableEq, Repr

/-- A parameter of an operation. -/
structure Parameter where
  name : Option Text
  type : Option Label
  required : Bool
  fallback : Option Text
  description : Option Text
  minimum : Option Number.Binary64
  maximum : Option Number.Binary64
  deriving DecidableEq, Repr

/-- The body of a request. -/
structure Body where
  type : Option Label
  description : Option Text
  deriving DecidableEq, Repr

/-- A response of an operation, with its code as written. -/
structure Response where
  code : Text
  type : Option Label
  description : Option Text
  warnings : List Text
  deriving DecidableEq, Repr

/-- An operation on a resource, with its full path. -/
structure Operation where
  method : Option Text
  path : Text
  description : Option Text
  body : Option Body
  parameters : List Parameter
  responses : List Response
  warnings : List Text
  deriving DecidableEq, Repr

/-- A resource: the type that it is about, and the operations on it. -/
structure Resource where
  type : Label
  path : Text
  description : Option Text
  operations : List Operation
  deriving DecidableEq, Repr

/-- A field or a parameter that has both a name and a type. -/
structure Typed where
  name : Text
  type : Label
  required : Bool
  deriving DecidableEq, Repr

end Draft

/-- What a document says about a service. -/
structure Draft where
  name : Option Text
  key : Option Text
  nameSpace : Option Text
  description : Option Text
  baseUrl : Option Text
  imports : List Draft.Import
  headers : List Draft.Header
  enums : List Draft.Enum
  unions : List Draft.Union
  models : List Draft.Model
  resources : List Draft.Resource
  deriving DecidableEq, Repr

namespace Draft

/-- The field as a typed one, if it has a name and a type. -/
def Field.typed? (f : Field) : Option Typed :=
  match f.name, f.type with
  | some name, some type => some ⟨name, type, f.required⟩
  | _, _ => none

/-- The parameter as a typed one, if it has a name and a type. -/
def Parameter.typed? (p : Parameter) : Option Typed :=
  match p.name, p.type with
  | some name, some type => some ⟨name, type, p.required⟩
  | _, _ => none

/-- The fields that have a name and a type. -/
def Model.typedFields (m : Model) : List Typed := m.fields.filterMap Field.typed?

/-- The parameters that have a name and a type. -/
def Operation.typedParameters (op : Operation) : List Typed :=
  op.parameters.filterMap Parameter.typed?

/-- The method as written, or nothing. -/
def Operation.methodText (op : Operation) : Text := op.method.getD ""

/-- The method and the path of an operation. -/
def Operation.label (op : Operation) : Text := op.methodText ++ " " ++ op.path

/-- The placeholders in the path of an operation. -/
def Operation.placeholders (op : Operation) : List Text := Path.placeholders op.path

/-- The names that a draft declares. -/
def declarations (d : Draft) : Declarations where
  enums := d.enums.map (·.name)
  models := d.models.map (·.name)
  unions := d.unions.map (·.name)

/-- The first model of a name. -/
def findModel? (d : Draft) (name : Text) : Option Model :=
  d.models.find? fun m => m.name == name

end Draft

end ServiceContract
