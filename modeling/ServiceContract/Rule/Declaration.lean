import ServiceContract.Draft.Basic
import ServiceContract.UrlKey

/-!
# Rules for names, keys and declarations

A rule lists what is wrong with a draft; nothing is wrong if the list is empty.  The rules of this
module concern the service itself, its headers and its enums, unions and models.
-/

namespace ServiceContract.Rule

/-- The service has a name. -/
def requiredFields (d : Draft) : List Text :=
  if d.name.isNone then ["Missing: name"] else []

/-- The message about a key that is no url key. -/
def invalidKey (key : Text) : Text :=
  "Invalid url key. A valid key would be " ++ UrlKey.generate key

/-- A key is the url key of itself. -/
def key (d : Draft) : List Text :=
  match d.key with
  | none => []
  | some key => if UrlKey.generate key = key then [] else [invalidKey key]

/-- Every value of an enum has a name. -/
def enums (d : Draft) : List Text :=
  d.enums.flatMap fun e => (e.values.filter (·.name.isNone)).map fun _ =>
    "Enum[" ++ e.name ++ "] - all values must have a name"

/-- Every member of a union has a type. -/
def unions (d : Draft) : List Text :=
  (d.unions.filter fun u => u.members.any (·.type.isNone)).map fun u =>
    "Union[" ++ u.name ++ "] all types must have a name"

/-- Every header has a name and a type. -/
def headers (d : Draft) : List Text :=
  let unnamed : List Text :=
    if d.headers.any (·.name.isNone) then ["All headers must have a name"] else []
  let untyped : List Text :=
    if d.headers.any (·.type.isNone) then ["All headers must have a type"] else []
  unnamed ++ untyped

/-! ### Fields -/

/-- The message about a field without a name. -/
def unnamedField (m : Draft.Model) : Text :=
  "Model[" ++ m.name ++ "] field must have a name"

/-- What is wrong with the type of the field `name`. -/
def fieldType (types : Declarations) (m : Draft.Model) (name : Text) (f : Draft.Field) :
    List Text :=
  match f.type with
  | none => ["Model[" ++ m.name ++ "] field[" ++ name ++ "] must have a type"]
  | some label =>
    if (types.resolve? label).isNone then
      ["Model[" ++ m.name ++ "] field[" ++ name ++ "] has an invalid type[" ++ label.name ++ "]"]
    else []

/-- The warnings of the field `name` in one message. -/
def fieldWarnings (m : Draft.Model) (name : Text) (f : Draft.Field) : List Text :=
  if f.warnings.isEmpty then []
  else ["Model[" ++ m.name ++ "] field[" ++ name ++ "]: " ++ Text.join ", " f.warnings]

/-- What `check` says about the fields that have a name, in document order. -/
def aboutNamedFields (d : Draft)
    (check : Draft.Model → Text → Draft.Field → List Text) : List Text :=
  d.models.flatMap fun m => m.fields.flatMap fun f => (f.name.map (check m · f)).getD []

/-- Every field has a name and a type that resolves, and no warnings. -/
def fields (d : Draft) : List Text :=
  aboutNamedFields d (fieldType d.declarations) ++
    (d.models.flatMap fun m => (m.fields.filter (·.name.isNone)).map fun _ => unnamedField m) ++
    aboutNamedFields d fieldWarnings

end ServiceContract.Rule
