import ServiceContract.Datatype.Label

/-!
# Resolving type labels

The name in a label is looked up among the primitive types and the declared enums, models and
unions, in this order.  A label whose name is found denotes a `Datatype`, whose own label is the
canonical spelling.
-/

namespace ServiceContract

/-- Where the name of a type is declared. -/
inductive TypeKind where
  | primitive
  | enumeration
  | model
  | union
  deriving DecidableEq, Repr

/-- The name of a kind of type. -/
def TypeKind.name : TypeKind → Text
  | primitive => "primitive"
  | enumeration => "enum"
  | model => "model"
  | union => "union"

/-- A name that was found, with the place of its declaration. -/
structure TypeRef where
  kind : TypeKind
  name : Text
  deriving DecidableEq, Repr

/-- The type that a label denotes. -/
inductive Datatype where
  | scalar (ref : TypeRef)
  | listOf (ref : TypeRef)
  | mapOf (ref : TypeRef)
  deriving DecidableEq, Repr

namespace Datatype

/-- The type named inside. -/
def ref : Datatype → TypeRef
  | scalar r => r
  | listOf r => r
  | mapOf r => r

/-- The canonical label. -/
def label : Datatype → Text
  | scalar r => r.name
  | listOf r => "[" ++ r.name ++ "]"
  | mapOf r => "map[" ++ r.name ++ "]"

/-- The name of the form of a datatype. -/
def form : Datatype → Text
  | scalar _ => "Scalar"
  | listOf _ => "ListOf"
  | mapOf _ => "MapOf"

/-- The datatype of a container and the type in it. -/
def ofContainer : Container → TypeRef → Datatype
  | .singleton => scalar
  | .list => listOf
  | .map => mapOf

end Datatype

/-- The names that a service declares. -/
structure Declarations where
  enums : List Text
  models : List Text
  unions : List Text
  deriving DecidableEq, Repr

namespace Declarations

/-- All declared names. -/
def names (d : Declarations) : List Text := d.enums ++ d.models ++ d.unions

/-- The type of a name; the first place that has it decides. -/
def find? (d : Declarations) (name : Text) : Option TypeRef :=
  if Primitive.isName name then some ⟨.primitive, name⟩
  else if d.enums.contains name then some ⟨.enumeration, name⟩
  else if d.models.contains name then some ⟨.model, name⟩
  else if d.unions.contains name then some ⟨.union, name⟩
  else none

/-- The datatype of a label. -/
def resolve? (d : Declarations) (label : Label) : Option Datatype :=
  (d.find? label.name).map (Datatype.ofContainer label.container)

/-- The datatype of a label given as text. -/
def resolveText? (d : Declarations) (text : Text) : Option Datatype :=
  d.resolve? (Label.ofText text)

end Declarations

end ServiceContract
