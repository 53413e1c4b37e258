import ServiceContract.Datatype.Resolution
import ServiceContract.Method
import ServiceContract.Number.Binary64

/-!
# Services

A `Service` is the canonical description of a service: names and types are present, methods are
known, codes are integers, and each parameter has its place in a request.  Types are kept as
labels.
-/

namespace ServiceContract

namespace Service

/-- Where a parameter stands in a request. -/
inductive Location where
  | path
  | query
  | form
  deriving DecidableEq, Repr

/-- The name of a location. -/
def Location.name : Location → Text
  | path => "Path"
  | query => "Query"
  | form => "Form"

/-- A reference to another service. -/
structure Import where
  uri : Text
  deriving DecidableEq, Repr

/-- A header of all requests. -/
structure Header where
  name : Text
  type : Text
  required : Bool
  fallback : Option Text
  description : Option Text
  deriving DecidableEq, Repr

/-- A value of an enum. -/
structure EnumValue where
  name : Text
  description : Option Text
  deriving DecidableEq, Repr

/-- An enum. -/
structure Enum where
  name : Text
  plural : Text
  description : Option Text
  values : List EnumValue
  deriving DecidableEq, Repr

/-- A member of a union. -/
structure UnionMember where
  type : Text
  description : Option Text
  deriving DecidableEq, Repr

/-- A union. -/
structure Union where
  name : Text
  plural : Text
  description : Option Text
  members : List UnionMember
  deriving DecidableEq, Repr

/-- A field of a model. -/
structure Field where
  name : Text
  type : Text
  required : Bool
  fallback : Option Text
  description : Option Text
  sample : Option Text
  minimum : Option Number.Binary64
  maximum : Option Number.Binary64
  deriving DecidableEq, Repr

/-- A model. -/
structure Model where
  name : Text
  plural : Text
  description : Option Text
  fields : List Field
  deriving DecidableEq, Repr

/-- A parameter of an operation. -/
structure Parameter where
  name : Text
  type : Text
  location : Location
  required : Bool
  fallback : Option Text
  description : Option Text
  minimum : Option Number.Binary64
  maximum : Option Number.Binary64
  deriving DecidableEq, Repr

/-- The body of a request. -/
structure Body where
  type : Text
  description : Option Text
  deriving DecidableEq, Repr

/-- A response of an operation. -/
structure Response where
  code : Int
  type : Text
  description : Option Text
  deriving DecidableEq, Repr

/-- An operation on a resource. -/
structure Operation where
  method : Method
  path : Text
  description : Option Text
  body : Option Body
  parameters : List Parameter
  responses : List Response
  deriving DecidableEq, Repr

/-- A resource: the type that it is about, and the operations on it. -/
structure Resource where
  type : Text
  plural : Text
  path : Text
  description : Option Text
  operations : List Operation
  deriving DecidableEq, Repr

end Service

/-- The canonical description of a service. -/
structure Service where
  name : Text
  key : Text
  nameSpace : Text
  organization : Text
  version : Text
  description : Option Text
  baseUrl : Option Text
  imports : List Service.Import
  headers : List Service.Header
  enums : List Service.Enum
  unions : List Service.Union
  models : List Service.Model
  resources : List Service.Resource
  deriving DecidableEq, Repr

namespace Service

/-- The names that a service declares. -/
def declarations (s : Service) : Declarations where
  enums := s.enums.map (·.name)
  models := s.models.map (·.name)
  unions := s.unions.map (·.name)

end Service

end ServiceContract
