import ServiceContract.Configuration
import ServiceContract.Draft.Basic
import ServiceContract.Number.Integer
import ServiceContract.Service.Basic
import ServiceContract.UrlKey

/-!
# Building services

`Service.build` turns a draft into a service.  A draft that follows all rules has all that is
needed; of any other the first part that fails decides, in the order in which the parts of a
service are listed, and within an element the parts that it is computed from come before the
element itself.
-/

namespace ServiceContract.Service

/-- Why a draft is no service. -/
inductive BuildFault where
  /-- Neither a key nor a name to make one from. -/
  | noKey
  /-- An element that has to have a type has none. -/
  | noType
  /-- An operation has no method. -/
  | noMethod
  /-- An element that has to have a name or an address has none. -/
  | noName
  /-- An operation has a method that is not known. -/
  | unknownMethod
  /-- The code of a response cannot be read. -/
  | code (fault : Number.IntegerFault)
  deriving DecidableEq, Repr

/-- The wording of a fault. -/
def BuildFault.message : BuildFault → Text
  | noKey => "a service needs a key or a name"
  | noType => "an element needs a type"
  | noMethod => "an operation needs a method"
  | noName => "an element needs a name"
  | unknownMethod => "an operation needs a known method"
  | code fault => fault.message

/-- The text of a label, which has to be there. -/
def typeText (type : Option Label) : Except BuildFault Text :=
  match type with
  | some label => .ok label.text
  | none => .error .noType

/-- A name, which has to be there. -/
def nameText (name : Option Text) : Except BuildFault Text :=
  match name with
  | some name => .ok name
  | none => .error .noName

/-- Builds an import. -/
def buildImport (i : Draft.Import) : Except BuildFault Import :=
  (nameText i.uri).map Import.mk

/-- Builds a header. -/
def buildHeader (h : Draft.Header) : Except BuildFault Header := do
  let type ← typeText h.type
  let name ← nameText h.name
  return ⟨name, type, h.required, h.fallback, h.description⟩

/-- Builds a value of an enum. -/
def buildEnumValue (v : Draft.EnumValue) : Except BuildFault EnumValue := do
  let name ← nameText v.name
  return ⟨name, v.description⟩

/-- Builds an enum. -/
def buildEnum (e : Draft.Enum) : Except BuildFault Enum := do
  let values ← e.values.mapM buildEnumValue
  return ⟨e.name, UrlKey.plural e.name, e.description, values⟩

/-- Builds a member of a union. -/
def buildUnionMember (m : Draft.UnionMember) : Except BuildFault UnionMember := do
  let type ← typeText m.type
  return ⟨type, m.description⟩

/-- Builds a union. -/
def buildUnion (u : Draft.Union) : Except BuildFault Union := do
  let members ← u.members.mapM buildUnionMember
  return ⟨u.name, UrlKey.plural u.name, u.description, members⟩

/-- Builds a field. -/
def buildField (f : Draft.Field) : Except BuildFault Field := do
  let type ← typeText f.type
  let name ← nameText f.name
  return ⟨name, type, f.required, f.fallback, f.description, f.sample, f.minimum, f.maximum⟩

/-- Builds a model. -/
def buildModel (m : Draft.Model) : Except BuildFault Model := do
  let fields ← m.fields.mapM buildField
  return ⟨m.name, UrlKey.plural m.name, m.description, fields⟩

/-! ### Operations -/

/-- Where a parameter stands: in the path if a placeholder has its name, in the query if the
operation has a body or the method `GET`, and in the form otherwise. -/
def locationOf (op : Draft.Operation) (method : Option Method) (p : Draft.Parameter) : Location :=
  if p.name.any op.placeholders.contains then .path
  else if op.body.isSome || method == some .get then .query
  else .form

/-- Builds a body. -/
def buildBody (b : Draft.Body) : Except BuildFault Body := do
  let type ← typeText b.type
  return ⟨type, b.description⟩

/-- Builds a parameter. -/
def buildParameter (op : Draft.Operation) (method : Option Method) (p : Draft.Parameter) :
    Except BuildFault Parameter := do
  let type ← typeText p.type
  let name ← nameText p.name
  return ⟨name, type, locationOf op method p, p.required, p.fallback, p.description, p.minimum,
    p.maximum⟩

/-- Builds a response. -/
def buildResponse (r : Draft.Response) : Except BuildFault Response := do
  let code ← (Number.readInteger r.code).mapError BuildFault.code
  let type ← typeText r.type
  return ⟨code, type, r.description⟩

/-- The method that an operation names, which has to name one. -/
def methodOf (op : Draft.Operation) : Except BuildFault (Option Method) :=
  match op.method with
  | some method => .ok (Method.ofText? method)
  | none => .error .noMethod

/-- Builds an operation. -/
def buildOperation (op : Draft.Operation) : Except BuildFault Operation := do
  let body ← op.body.mapM buildBody
  let method ← methodOf op
  let parameters ← op.parameters.mapM (buildParameter op method)
  let responses ← op.responses.mapM buildResponse
  match method with
  | some method => return ⟨method, op.path, op.description, body, parameters, responses⟩
  | none => .error .unknownMethod

/-- Builds a resource. -/
def buildResource (r : Draft.Resource) : Except BuildFault Resource := do
  let operations ← r.operations.mapM buildOperation
  return ⟨r.type.text, UrlKey.plural r.type.text, r.path, r.description, operations⟩

/-! ### The service -/

/-- A text that is there and not empty. -/
def given? (text : Option Text) : Option Text :=
  text.filter fun s => !s.isEmpty

/-- The key of a service: as given, or the url key of its name. -/
def keyOf (d : Draft) : Except BuildFault Text :=
  match given? d.key, d.name with
  | some key, _ => .ok key
  | none, some name => .ok (UrlKey.generate name)
  | none, none => .error .noKey

/-- Builds a service. -/
def build (c : Configuration) (d : Draft) : Except BuildFault Service := do
  let key ← keyOf d
  let imports ← d.imports.mapM buildImport
  let headers ← d.headers.mapM buildHeader
  let enums ← d.enums.mapM buildEnum
  let unions ← d.unions.mapM buildUnion
  let models ← d.models.mapM buildModel
  let resources ← d.resources.mapM buildResource
  let name ← nameText d.name
  return {
    name := name
    key := key
    nameSpace := (given? d.nameSpace).getD (c.applicationNamespace key)
    organization := c.orgKey
    version := c.version
    description := d.description
    baseUrl := d.baseUrl
    imports := imports
    headers := headers
    enums := enums
    unions := unions
    models := models
    resources := resources }

end ServiceContract.Service
