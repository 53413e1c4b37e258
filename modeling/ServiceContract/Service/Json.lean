import ServiceContract.Json.Value
import ServiceContract.Service.Basic

/-!
# Services as JSON

`Service.toJson` is the JSON object of a service.  Every member is there, in a fixed order; what a
service leaves open is null.
-/

namespace ServiceContract.Service

open Json (Value)

/-- A text that may be missing. -/
def textOrNull : Option Text → Value
  | none => .null
  | some s => .string s

/-- A bound that may be missing. -/
def boundOrNull : Option Number.Binary64 → Value
  | none => .null
  | some x => .float x

/-- The object of a reference. -/
def Import.toJson (i : Import) : Value := .object [("uri", .string i.uri)]

/-- The object of a header. -/
def Header.toJson (h : Header) : Value :=
  .object [
    ("name", .string h.name),
    ("type", .string h.type),
    ("required", .bool h.required),
    ("default", textOrNull h.fallback),
    ("description", textOrNull h.description)]

/-- The object of a value of an enum. -/
def EnumValue.toJson (v : EnumValue) : Value :=
  .object [("name", .string v.name), ("description", textOrNull v.description)]

/-- The object of an enum. -/
def Enum.toJson (e : Enum) : Value :=
  .object [
    ("name", .string e.name),
    ("plural", .string e.plural),
    ("description", textOrNull e.description),
    ("values", .array (e.values.map EnumValue.toJson))]

/-- The object of a member of a union. -/
def UnionMember.toJson (m : UnionMember) : Value :=
  .object [("type", .string m.type), ("description", textOrNull m.description)]

/-- The object of a union. -/
def Union.toJson (u : Union) : Value :=
  .object [
    ("name", .string u.name),
    ("plural", .string u.plural),
    ("description", textOrNull u.description),
    ("types", .array (u.members.map UnionMember.toJson))]

/-- The object of a field. -/
def Field.toJson (f : Field) : Value :=
  .object [
    ("name", .string f.name),
    ("type", .string f.type),
    ("required", .bool f.required),
    ("default", textOrNull f.fallback),
    ("description", textOrNull f.description),
    ("example", textOrNull f.sample),
    ("minimum", boundOrNull f.minimum),
    ("maximum", boundOrNull f.maximum)]

/-- The object of a model. -/
def Model.toJson (m : Model) : Value :=
  .object [
    ("name", .string m.name),
    ("plural", .string m.plural),
    ("description", textOrNull m.description),
    ("fields", .array (m.fields.map Field.toJson))]

/-- The object of a parameter. -/
def Parameter.toJson (p : Parameter) : Value :=
  .object [
    ("name", .string p.name),
    ("type", .string p.type),
    ("location", .string p.location.name),
    ("required", .bool p.required),
    ("default", textOrNull p.fallback),
    ("description", textOrNull p.description),
    ("minimum", boundOrNull p.minimum),
    ("maximum", boundOrNull p.maximum)]

/-- The object of a body. -/
def Body.toJson (b : Body) : Value :=
  .object [("type", .string b.type), ("description", textOrNull b.description)]

/-- The object of a response. -/
def Response.toJson (r : Response) : Value :=
  .object [
    ("code", .int r.code),
    ("type", .string r.type),
    ("description", textOrNull r.description)]

/-- The object of an operation. -/
def Operation.toJson (op : Operation) : Value :=
  .object [
    ("method", .string op.method.name),
    ("path", .string op.path),
    ("description", textOrNull op.description),
    ("body", (op.body.map Body.toJson).getD .null),
    ("parameters", .array (op.parameters.map Parameter.toJson)),
    ("responses", .array (op.responses.map Response.toJson))]

/-- The object of a resource. -/
def Resource.toJson (r : Resource) : Value :=
  .object [
    ("type", .string r.type),
    ("plural", .string r.plural),
    ("path", .string r.path),
    ("description", textOrNull r.description),
    ("operations", .array (r.operations.map Operation.toJson))]

/-- The object of a service. -/
def toJson (s : Service) : Value :=
  .object [
    ("name", .string s.name),
    ("key", .string s.key),
    ("namespace", .string s.nameSpace),
    ("organization", .string s.organization),
    ("version", .string s.version),
    ("description", textOrNull s.description),
    ("base_url", textOrNull s.baseUrl),
    ("imports", .array (s.imports.map Import.toJson)),
    ("headers", .array (s.headers.map Header.toJson)),
    ("enums", .array (s.enums.map Enum.toJson)),
    ("unions", .array (s.unions.map Union.toJson)),
    ("models", .array (s.models.map Model.toJson)),
    ("resources", .array (s.resources.map Resource.toJson))]

end ServiceContract.Service
