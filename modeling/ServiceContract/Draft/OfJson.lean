import ServiceContract.Draft.Basic
import ServiceContract.Draft.Element
import ServiceContract.Json.Literal
import ServiceContract.UrlKey

/-!
# Reading drafts

`Draft.ofJson` reads a draft from the members of a JSON object.  Values of a wrong kind count as
absent.  The only way to fail is a bound of a field or a parameter that is an integer beyond the
range of doubles.
-/

namespace ServiceContract.Draft

/-- A bound beyond the range of doubles. -/
inductive BoundFault where
  | outOfRange
  deriving DecidableEq, Repr

/-- The wording of a fault. -/
def BoundFault.message : BoundFault → String
  | outOfRange => "int too large to convert to float"

/-! ### Parts of elements -/

/-- The text of a key. -/
def textOf (members : Json.Members) (key : Text) : Option Text :=
  (members.get? key).bind Json.Value.text?

/-- The objects in the array of a key. -/
def objectsOf (members : Json.Members) (key : Text) : List Json.Members :=
  ((members.get? key).getD .null).items.filterMap Json.Value.members?

/-- The named objects in the object of a key. -/
def namedObjectsOf (members : Json.Members) (key : Text) : List (Text × Json.Members) :=
  ((members.get? key).getD .null).members.filterMap fun (name, value) =>
    value.members?.map fun inner => (name, inner)

/-- The label of a value, unless it is no text or a blank one. -/
def labelOf? : Json.Value → Option Label
  | .string s => if s.isEmptyOrBlank then none else some (Label.ofText s)
  | _ => none

/-- The label under the key `type`. -/
def typeOf (members : Json.Members) : Option Label :=
  (members.get? "type").bind labelOf?

/-- The text of a default or an example. -/
def defaultOf (members : Json.Members) (key : Text) : Option Text :=
  (members.get? key).bind Json.Value.asDefault

/-- Whether an element is required; it is, unless it says otherwise. -/
def requiredOf (members : Json.Members) : Bool :=
  match members.get? "required" with
  | some (.bool b) => b
  | _ => true

/-- The bound under a key. -/
def boundOf (members : Json.Members) (key : Text) :
    Except BoundFault (Option Number.Binary64) :=
  match members.get? key with
  | some (.float x) => .ok (some x)
  | some (.int n) =>
    match Number.Binary64.ofInt? n with
    | some x => .ok (some x)
    | none => .error .outOfRange
  | _ => .ok none

/-- The warnings of a label, if there is one. -/
def labelWarnings (label : Option Label) : List Text :=
  (label.map Label.warnings).getD []

/-! ### Headers, enums, unions and models -/

/-- Reads an import. -/
def importOf (members : Json.Members) : Import := ⟨textOf members "uri"⟩

/-- Reads a header. -/
def headerOf (members : Json.Members) : Header where
  name := textOf members "name"
  type := typeOf members
  required := requiredOf members
  fallback := defaultOf members "default"
  description := textOf members "description"

/-- Reads a value of an enum. -/
def enumValueOf (members : Json.Members) : EnumValue where
  name := textOf members "name"
  description := textOf members "description"

/-- Reads an enum. -/
def enumOf (name : Text) (members : Json.Members) : Enum where
  name := name
  description := textOf members "description"
  values := (objectsOf members "values").map enumValueOf

/-- Reads a member of a union. -/
def unionMemberOf (members : Json.Members) : UnionMember where
  type := typeOf members
  description := textOf members "description"

/-- Reads a union. -/
def unionOf (name : Text) (members : Json.Members) : Union where
  name := name
  description := textOf members "description"
  members := (objectsOf members "types").map unionMemberOf

/-- Reads a field. -/
def fieldOf (members : Json.Members) : Except BoundFault Field := do
  let minimum ← boundOf members "minimum"
  let maximum ← boundOf members "maximum"
  return {
    name := textOf members "name"
    type := typeOf members
    required := requiredOf members
    fallback := defaultOf members "default"
    description := textOf members "description"
    sample := defaultOf members "example"
    minimum := minimum
    maximum := maximum
    warnings := fieldTable.warnings members ++ labelWarnings (typeOf members) }

/-- Reads a model. -/
def modelOf (name : Text) (members : Json.Members) : Except BoundFault Model := do
  let fields ← (objectsOf members "fields").mapM fieldOf
  return { name := name, description := textOf members "description", fields := fields }

/-! ### Resources -/

/-- Reads a parameter. -/
def parameterOf (members : Json.Members) : Except BoundFault Parameter := do
  let minimum ← boundOf members "minimum"
  let maximum ← boundOf members "maximum"
  return {
    name := textOf members "name"
    type := typeOf members
    required := requiredOf members
    fallback := defaultOf members "default"
    description := textOf members "description"
    minimum := minimum
    maximum := maximum }

/-- The warnings that a parameter adds to those of its operation. -/
def parameterWarnings (members : Json.Members) : List Text :=
  (parameterTable.warnings members ++ labelWarnings (typeOf members)).map fun warning =>
    "Parameter[" ++ (textOf members "name").getD "" ++ "] " ++ warning

/-- Reads a body: nothing for null, an empty body for what is no object. -/
def bodyOf : Option Json.Value → Option Body
  | none | some .null => none
  | some (.object members) => some ⟨typeOf members, textOf members "description"⟩
  | some _ => some ⟨none, none⟩

/-- The codes of responses that have no content. -/
def codesWithoutContent : List Text := ["204", "304"]

/-- The type of a response: as written, or `unit` if none is written and the code has no
content. -/
def responseTypeOf (code : Text) (members : Json.Members) : Option Label :=
  if (members.get? "type").isNone && codesWithoutContent.contains code then
    some (Label.ofText Primitive.unit.name)
  else typeOf members

/-- Reads a response. -/
def responseOf (code : Text) : Json.Value → Response
  | .object members =>
    { code := code
      type := responseTypeOf code members
      description := textOf members "description"
      warnings :=
        responseTable.warnings members ++ labelWarnings (responseTypeOf code members) }
  | _ =>
    { code := code, type := none, description := none, warnings := ["Response must be an object"] }

/-- Reads an operation of a resource with the given path. -/
def operationOf (resourcePath : Text) (members : Json.Members) :
    Except BoundFault Operation := do
  let parameters ← (objectsOf members "parameters").mapM parameterOf
  return {
    method := textOf members "method"
    path := Path.join resourcePath (textOf members "path")
    description := textOf members "description"
    body := bodyOf (members.get? "body")
    parameters := parameters
    responses := ((members.get? "responses").getD .null).members.map
      fun (code, value) => responseOf code value
    warnings := operationTable.warnings members ++
      (objectsOf members "parameters").flatMap parameterWarnings }

/-- The path of a resource: as written, or the plural of its type as a url key. -/
def resourcePathOf (typeName : Text) (members : Json.Members) : Text :=
  (textOf members "path").getD ("/" ++ UrlKey.generate (UrlKey.plural typeName))

/-- Reads a resource. -/
def resourceOf (typeName : Text) (members : Json.Members) : Except BoundFault Resource := do
  let path := resourcePathOf typeName members
  let operations ← (objectsOf members "operations").mapM (operationOf path)
  return {
    type := Label.ofText typeName
    path := path
    description := textOf members "description"
    operations := operations }

/-- Reads a draft. -/
def ofJson (members : Json.Members) : Except BoundFault Draft := do
  let models ← (namedObjectsOf members "models").mapM fun (name, inner) => modelOf name inner
  let resources ← (namedObjectsOf members "resources").mapM
    fun (name, inner) => resourceOf name inner
  return {
    name := textOf members "name"
    key := textOf members "key"
    nameSpace := textOf members "namespace"
    description := textOf members "description"
    baseUrl := textOf members "base_url"
    imports := (objectsOf members "imports").map importOf
    headers := (objectsOf members "headers").map headerOf
    enums := (namedObjectsOf members "enums").map fun (name, inner) => enumOf name inner
    unions := (namedObjectsOf members "unions").map fun (name, inner) => unionOf name inner
    models := models
    resources := resources }

end ServiceContract.Draft
