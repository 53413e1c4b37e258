import ServiceContract.Proofs.Draft.Likeness
import ServiceContract.Proofs.Service.Check
import ServiceContract.Service.Build

/-!
# Services of alike drafts

Alike drafts are both built to services or both not, and what the services have is alike again
(`both_build`): the checks of a whole service find as much wrong with the one as with the other
(`Alike.length_errors`).
-/

namespace ServiceContract.Service

open Outcome

/-- Models of the same name with fields of the same names. -/
structure Model.Alike (m m' : Model) : Prop where
  name : m.name = m'.name
  fields : m.fields.map (·.name) = m'.fields.map (·.name)

structure Header.Alike (h h' : Header) : Prop where
  name : h.name = h'.name
  type : h.type = h'.type

/-- Resources about the same type with the same operations. -/
structure Resource.Alike (r r' : Resource) : Prop where
  type : r.type = r'.type
  operations : r.operations.map Operation.label = r'.operations.map Operation.label

/-- Services that agree in all that the checks of a whole service look at. -/
structure Alike (s s' : Service) : Prop where
  headers : List.Forall₂ Header.Alike s.headers s'.headers
  enums : s.enums.Perm s'.enums
  unions : s.unions.Perm s'.unions
  models : Shuffled Model.Alike s.models s'.models
  resources : Shuffled Resource.Alike s.resources s'.resources

/-! ### Building -/

theorem both_typed {α β : Type} {r : α → β → Prop} {name name' : Option Text}
    {type type' : Option Label} {f : Text → Text → α} {g : Text → Text → β} (hn : name = name')
    (ht : type = type') (hfg : ∀ n t, r (f n t) (g n t)) :
    Both r (do let t ← typeText type; let n ← nameText name; return f n t)
      (do let t ← typeText type'; let n ← nameText name'; return g n t) := by
  subst hn ht
  refine (both_eq (typeText type)).bind ?_
  rintro t _ rfl
  refine (both_eq (nameText name)).bind ?_
  rintro n _ rfl
  exact .ok (hfg n t)

theorem both_buildHeader {h h' : Draft.Header} (hh : h.Alike h') :
    Both Header.Alike (buildHeader h) (buildHeader h') :=
  both_typed hh.name hh.type fun _ _ => ⟨rfl, rfl⟩

theorem both_buildField {f f' : Draft.Field} (h : f.Alike f') :
    Both (fun g g' => g.name = g'.name) (buildField f) (buildField f') :=
  both_typed h.name h.type fun _ _ => rfl

theorem both_buildModel {m m' : Draft.Model} (h : m.Alike m') :
    Both Model.Alike (buildModel m) (buildModel m') := by
  refine (both_mapM h.fields fun _ _ => both_buildField).bind fun fs fs' hfs => .ok ?_
  exact ⟨h.name, map_eq_of_forall₂ hfs fun _ _ hf => hf⟩

theorem both_buildBody {b b' : Option Draft.Body}
    (h : b.map Draft.Body.type = b'.map Draft.Body.type) :
    Both (fun _ _ => True) (b.mapM buildBody : Except BuildFault _)
      (b'.mapM buildBody : Except BuildFault _) := by
  obtain ⟨rfl, rfl⟩ | ⟨body, body', rfl, rfl, htype⟩ := option_map_cases h
  · exact .ok trivial
  · rw [Option.mapM_some, Option.mapM_some, buildBody, buildBody, htype]
    cases typeText body'.type with
    | error e => exact .error e e
    | ok t => exact .ok trivial

theorem both_buildParameter {op op' : Draft.Operation} {method method' : Option Method}
    {p p' : Draft.Parameter} (h : p.Alike p') :
    Both (fun _ _ => True) (buildParameter op method p) (buildParameter op' method' p') :=
  both_typed h.name h.type fun _ _ => trivial

theorem both_buildResponse {x x' : Draft.Response} (h : x.Alike x') :
    Both (fun _ _ => True) (buildResponse x) (buildResponse x') := by
  unfold buildResponse
  rw [h.code, h.type]
  exact (both_eq _).bind fun _ _ _ => (both_eq _).bind fun _ _ _ => .ok trivial

theorem both_methodOf {op op' : Draft.Operation} (h : op.Alike op') :
    Both (· = ·) (methodOf op) (methodOf op') := by
  unfold methodOf
  obtain ⟨hm, hm'⟩ | ⟨text, text', hm, hm', htext⟩ := option_map_cases h.method
  · rw [hm, hm']
    exact .error _ _
  · rw [hm, hm']
    exact .ok htext

theorem both_buildOperation {op op' : Draft.Operation} (h : op.Alike op') :
    Both (fun o o' => o.label = o'.label) (buildOperation op) (buildOperation op') := by
  unfold buildOperation
  refine (both_buildBody h.body).bind fun _ _ _ => (both_methodOf h).bind ?_
  rintro method _ rfl
  refine (both_mapM h.parameters fun _ _ => both_buildParameter).bind fun _ _ _ => ?_
  refine (h.responses.mapM fun _ _ => both_buildResponse).bind fun _ _ _ => ?_
  cases method with
  | none => exact .error _ _
  | some method =>
    refine .ok ?_
    show method.name ++ " " ++ op.path = method.name ++ " " ++ op'.path
    rw [h.path]

theorem both_buildResource {r r' : Draft.Resource} (h : r.Alike r') :
    Both Resource.Alike (buildResource r) (buildResource r') := by
  refine (both_mapM h.operations fun _ _ => both_buildOperation).bind fun ops ops' hops => .ok ?_
  refine ⟨?_, map_eq_of_forall₂ hops fun _ _ hop => hop⟩
  dsimp only
  rw [h.type]

/-- Alike drafts are built to services that are alike, or to none both. -/
theorem both_build (c : Configuration) {d d' : Draft} (h : d.Alike d') :
    Both Alike (build c d) (build c d') := by
  have hkey : keyOf d = keyOf d' := by rw [keyOf, h.key, h.name, ← keyOf]
  unfold build
  rw [hkey, h.imports, h.name]
  refine (both_eq _).bind fun _ _ _ => (both_eq _).bind fun _ _ _ => ?_
  refine (both_mapM h.headers fun _ _ => both_buildHeader).bind fun _ _ hheaders => ?_
  refine (both_mapM_perm h.enums).bind fun _ _ henums => ?_
  refine (both_mapM_perm h.unions).bind fun _ _ hunions => ?_
  refine (h.models.mapM fun _ _ => both_buildModel).bind fun _ _ hmodels => ?_
  refine (h.resources.mapM fun _ _ => both_buildResource).bind fun _ _ hresources => ?_
  exact (both_eq _).bind fun _ _ _ => .ok ⟨hheaders, henums, hunions, hmodels, hresources⟩

/-! ### Checks of the whole service -/

variable {s s' : Service}

theorem Alike.permuted (h : s.Alike s') : s.declarations.Permuted s'.declarations where
  enums := h.enums.map _
  models := h.models.map_perm fun _ _ hm => hm.name
  unions := h.unions.map _

theorem length_typeNameErrors (h : s.Alike s') :
    s.typeNameErrors.length = s'.typeNameErrors.length := by
  unfold typeNameErrors
  simp only [List.length_map, map_fst_kindsOfNames, length_kindsOf]
  exact (Text.filter_repeated_perm h.permuted.names).length_eq

theorem length_modelErrors {m m' : Model} (h : m.Alike m') :
    (modelErrors m).length = (modelErrors m').length := by
  rw [modelErrors, h.name, h.fields, ← modelErrors]

theorem length_unionErrors {types types' : Declarations} (h : types.Permuted types') (u : Union) :
    (unionErrors types u).length = (unionErrors types' u).length := by
  unfold unionErrors
  simp only [h.resolveText?]

theorem length_headerErrors (h : s.Alike s') : s.headerErrors.length = s'.headerErrors.length := by
  have hnames : s.headers.map (·.name) = s'.headers.map (·.name) :=
    map_eq_of_forall₂ h.headers fun _ _ hh => hh.name
  have hunresolved := (Shuffled.of_forall₂ h.headers).filter
    (p := fun h => (s.declarations.resolveText? h.type).isNone) fun g g' hh => by
      rw [hh.type, h.permuted.resolveText?]
  unfold headerErrors
  rw [hnames, List.length_append, List.length_append, List.length_map, List.length_map,
    hunresolved.length_eq]

theorem length_resourceErrors {types types' : Declarations} (h : types.Permuted types')
    {r r' : Resource} (hr : r.Alike r') :
    (resourceErrors types r).length = (resourceErrors types' r').length := by
  unfold resourceErrors
  rw [hr.operations, hr.type, h.names.contains_eq]

/-- The checks of a whole service have as many messages about one of two alike services as about
the other. -/
theorem Alike.length_errors (h : s.Alike s') : s.errors.length = s'.errors.length := by
  have henums := (h.enums.flatMap_right enumErrors).length_eq
  have hmodels := h.models.length_flatMap fun _ _ => length_modelErrors
  have hunions : (s.unions.flatMap (unionErrors s.declarations)).length =
      (s'.unions.flatMap (unionErrors s'.declarations)).length := by
    refine (Shuffled.of_perm h.unions).length_flatMap ?_
    rintro u _ rfl
    exact length_unionErrors h.permuted u
  have hresources := h.resources.length_flatMap fun _ _ => length_resourceErrors h.permuted
  simp only [errors, List.length_append]
  rw [length_typeNameErrors h, henums, hmodels, hunions, length_headerErrors h, hresources]

end ServiceContract.Service
