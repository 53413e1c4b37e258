import ServiceContract.Rule.Operation

/-!
# Rules for path parameters

The type of a placeholder in a path is that of the parameter of its name, or else of the field of
its name in the model of the resource; of several the last one counts.  A placeholder that matches
neither is a required string.
-/

namespace ServiceContract.Rule

/-- The last of some fields or parameters with a name. -/
def lastNamed? (name : Text) (all : List Draft.Typed) : Option Draft.Typed :=
  all.reverse.find? fun t => t.name == name

/-- The fields of the model that a resource is about. -/
def resourceFields (d : Draft) (r : Draft.Resource) : List Draft.Typed :=
  ((d.findModel? r.type.text).map Draft.Model.typedFields).getD []

/-- Where the type of a placeholder comes from. -/
def placeholderSource (d : Draft) (r : Draft.Resource) (op : Draft.Operation) (name : Text) :
    Draft.Typed :=
  ((lastNamed? name op.typedParameters).or (lastNamed? name (resourceFields d r))).getD
    ⟨name, Label.ofText Primitive.string.name, true⟩

/-- Whether a type can be that of a path parameter: a primitive of those that can, or an enum. -/
def isValidInPath (ref : TypeRef) : Bool :=
  match ref.kind with
  | .primitive => Primitive.isValidInPath ref.name
  | .enumeration => true
  | _ => false

/-- What stands in place of a type that a path parameter can have. -/
def invalidInPath? (types : Declarations) (label : Label) : Option Text :=
  match types.resolve? label with
  | none => some label.text
  | some (.listOf _) => some "list"
  | some (.mapOf _) => some "map"
  | some (.scalar ref) => if isValidInPath ref then none else some ref.name

/-- How messages refer to a placeholder. -/
def placeholderLabel (r : Draft.Resource) (op : Draft.Operation) (name : Text) : Text :=
  resourceLabel r ++ " " ++ op.methodText ++ " path parameter[" ++ name ++ "] "

/-- What is wrong with the type of a placeholder. -/
def placeholderType (d : Draft) (r : Draft.Resource) (op : Draft.Operation) (name : Text) :
    List Text :=
  match invalidInPath? d.declarations (placeholderSource d r op name).type with
  | none => []
  | some found =>
    [placeholderLabel r op name ++ "has an invalid type[" ++ found ++
      "]. Valid types for path parameters are: " ++
      Text.join ", " (Primitive.validInPath.map Primitive.name)]

/-- The types of placeholders can be written in a path. -/
def pathParameters (d : Draft) : List Text :=
  (operationsOf d).flatMap fun (r, op) => op.placeholders.flatMap (placeholderType d r op)

/-- Placeholders are required. -/
def pathParametersRequired (d : Draft) : List Text :=
  (operationsOf d).flatMap fun (r, op) =>
    (op.placeholders.filter fun name => !(placeholderSource d r op name).required).map fun name =>
      placeholderLabel r op name ++
        "is specified as optional. All path parameters are required"

end ServiceContract.Rule
