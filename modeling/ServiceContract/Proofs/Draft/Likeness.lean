import ServiceContract.Draft.Basic
import ServiceContract.Method
import ServiceContract.Proofs.Shuffle

/-!
# Drafts that are alike

Two drafts are alike when they agree in all that rules and builders look at: names, labels and
flags, the methods that are named, and how many warnings an element draws, but not what defaults,
bounds and descriptions are, nor how warnings read.  Enums, unions, models, resources and the
responses of an operation may stand in another order.  Alike drafts resolve labels the same way
(`Alike.permuted`, `Declarations.Permuted.resolve?`), and a name finds alike models
(`Alike.findModel?`).
-/

namespace ServiceContract

/-- The same names of each kind, maybe in another order. -/
structure Declarations.Permuted (types types' : Declarations) : Prop where
  enums : types.enums.Perm types'.enums
  models : types.models.Perm types'.models
  unions : types.unions.Perm types'.unions

namespace Declarations.Permuted

variable {types types' : Declarations}

theorem names (h : types.Permuted types') : types.names.Perm types'.names :=
  (h.enums.append h.models).append h.unions

theorem find? (h : types.Permuted types') (name : Text) : types.find? name = types'.find? name := by
  unfold Declarations.find?
  rw [h.enums.contains_eq, h.models.contains_eq, h.unions.contains_eq]

theorem resolve? (h : types.Permuted types') (label : Label) :
    types.resolve? label = types'.resolve? label := by
  rw [Declarations.resolve?, h.find?, Declarations.resolve?]

theorem resolveText? (h : types.Permuted types') (text : Text) :
    types.resolveText? text = types'.resolveText? text := h.resolve? _

end Declarations.Permuted

namespace Draft

structure Header.Alike (h h' : Header) : Prop where
  name : h.name = h'.name
  type : h.type = h'.type

structure Field.Alike (f f' : Field) : Prop where
  name : f.name = f'.name
  type : f.type = f'.type
  required : f.required = f'.required
  warnings : f.warnings.length = f'.warnings.length

structure Model.Alike (m m' : Model) : Prop where
  name : m.name = m'.name
  fields : List.Forall₂ Field.Alike m.fields m'.fields

structure Parameter.Alike (p p' : Parameter) : Prop where
  name : p.name = p'.name
  type : p.type = p'.type
  required : p.required = p'.required

structure Response.Alike (x x' : Response) : Prop where
  code : x.code = x'.code
  type : x.type = x'.type
  warnings : x.warnings.length = x'.warnings.length

/-- Operations that name the same method, however it is spelled. -/
structure Operation.Alike (op op' : Operation) : Prop where
  method : op.method.map Method.ofText? = op'.method.map Method.ofText?
  path : op.path = op'.path
  body : op.body.map Body.type = op'.body.map Body.type
  parameters : List.Forall₂ Parameter.Alike op.parameters op'.parameters
  responses : Shuffled Response.Alike op.responses op'.responses
  warnings : op.warnings.length = op'.warnings.length

structure Resource.Alike (r r' : Resource) : Prop where
  type : r.type = r'.type
  operations : List.Forall₂ Operation.Alike r.operations r'.operations

/-- Drafts that agree in all that rules and builders look at.  Their models have different names,
so that a name finds the same one in both, whatever their order. -/
structure Alike (d d' : Draft) : Prop where
  name : d.name = d'.name
  key : d.key = d'.key
  imports : d.imports = d'.imports
  headers : List.Forall₂ Header.Alike d.headers d'.headers
  enums : d.enums.Perm d'.enums
  unions : d.unions.Perm d'.unions
  models : Shuffled Model.Alike d.models d'.models
  apart : (d.models.map (·.name)).Nodup
  resources : Shuffled Resource.Alike d.resources d'.resources

/-! ### What is read off alike elements -/

theorem Field.Alike.typed? {f f' : Field} (h : f.Alike f') : f.typed? = f'.typed? := by
  unfold Field.typed?
  rw [h.name, h.type, h.required]

theorem Parameter.Alike.typed? {p p' : Parameter} (h : p.Alike p') : p.typed? = p'.typed? := by
  unfold Parameter.typed?
  rw [h.name, h.type, h.required]

theorem Model.Alike.typedFields {m m' : Model} (h : m.Alike m') : m.typedFields = m'.typedFields :=
  filterMap_eq_of_forall₂ h.fields fun _ _ hf => hf.typed?

theorem Operation.Alike.typedParameters {op op' : Operation} (h : op.Alike op') :
    op.typedParameters = op'.typedParameters :=
  filterMap_eq_of_forall₂ h.parameters fun _ _ hp => hp.typed?

theorem Operation.Alike.placeholders {op op' : Operation} (h : op.Alike op') :
    op.placeholders = op'.placeholders := by
  rw [Operation.placeholders, h.path, Operation.placeholders]

variable {d d' : Draft}

theorem Alike.permuted (h : d.Alike d') : d.declarations.Permuted d'.declarations where
  enums := h.enums.map _
  models := h.models.map_perm fun _ _ hm => hm.name
  unions := h.unions.map _

theorem Alike.findModel? (h : d.Alike d') (name : Text) :
    Option.Rel Model.Alike (d.findModel? name) (d'.findModel? name) :=
  h.models.find?_key (fun _ _ hm => hm.name) h.apart name

end Draft

end ServiceContract
