import ServiceContract.Proofs.Validation.Conformance

/-!
# Accepted services reproduce their documents

A document is read in two passes, first to a draft and then to a service, and each pass goes
through all containers of the document.  `ReadFrom` says for each kind of element what the object
in the document has to hold, without a word about drafts; containers are related entry by entry, so
that nothing is lost, doubled or moved.  Every accepted service is so related to its document
(`validate_accepted_reproduces`).  The flags of fields and parameters and the responses are read
tolerantly into drafts; that they are what the document says follows from its conformance to the
tables of elements.
-/

namespace ServiceContract

open Outcome

variable {o : Json.Members}

namespace Service

/-! ### What an object says -/

/-- The entries of the array under a key that are objects, in order; none if there is no array. -/
def entriesAt (o : Json.Members) (key : Text) : List Json.Members :=
  match o.get? key with
  | some (.array items) => items.filterMap Json.Value.members?
  | _ => []

/-- The members of the object under a key that are objects, in order; none if there is no
object. -/
def membersAt (o : Json.Members) (key : Text) : List (Text × Json.Members) :=
  match o.get? key with
  | some (.object members) => members.filterMap fun member =>
      member.2.members?.map fun inner => (member.1, inner)
  | _ => []

/-- There is a text under the key. -/
def Says (o : Json.Members) (key text : Text) : Prop := o.get? key = some (.string text)

/-- The text under the key, if there is one. -/
def MaySay (o : Json.Members) (key : Text) (text : Option Text) : Prop :=
  ∀ t, text = some t ↔ Says o key t

/-- The type of the element, without the blanks around it. -/
def HasType (o : Json.Members) (type : Text) : Prop := ∃ t, Says o "type" t ∧ type = t.trim

/-- Whether the element is required, which it is if nothing is said about it. -/
def Requires (o : Json.Members) (required : Bool) : Prop :=
  o.get? "required" = some (.bool required) ∨
    required = true ∧ (o.get? "required" = none ∨ o.get? "required" = some .null)

/-! ### Elements and the objects that they are read from -/

structure Import.ReadFrom (o : Json.Members) (i : Import) : Prop where
  uri : Says o "uri" i.uri

/-- A header; whatever is no Boolean counts as nothing about whether it is required. -/
structure Header.ReadFrom (o : Json.Members) (h : Header) : Prop where
  name : Says o "name" h.name
  type : HasType o h.type
  required : o.get? "required" = some (.bool h.required) ∨
    h.required = true ∧ ∀ b, o.get? "required" ≠ some (.bool b)
  fallback : h.fallback = (o.get? "default").bind Json.Value.asDefault
  description : MaySay o "description" h.description

structure EnumValue.ReadFrom (o : Json.Members) (v : EnumValue) : Prop where
  name : Says o "name" v.name
  description : MaySay o "description" v.description

structure Enum.ReadFrom (entry : Text × Json.Members) (e : Enum) : Prop where
  name : e.name = entry.1
  description : MaySay entry.2 "description" e.description
  values : List.Forall₂ EnumValue.ReadFrom (entriesAt entry.2 "values") e.values

structure UnionMember.ReadFrom (o : Json.Members) (m : UnionMember) : Prop where
  type : HasType o m.type
  description : MaySay o "description" m.description

structure Union.ReadFrom (entry : Text × Json.Members) (u : Union) : Prop where
  name : u.name = entry.1
  description : MaySay entry.2 "description" u.description
  members : List.Forall₂ UnionMember.ReadFrom (entriesAt entry.2 "types") u.members

structure Field.ReadFrom (o : Json.Members) (f : Field) : Prop where
  name : Says o "name" f.name
  type : HasType o f.type
  required : Requires o f.required
  fallback : f.fallback = (o.get? "default").bind Json.Value.asDefault
  description : MaySay o "description" f.description
  sample : f.sample = (o.get? "example").bind Json.Value.asDefault
  minimum : Draft.boundOf o "minimum" = .ok f.minimum
  maximum : Draft.boundOf o "maximum" = .ok f.maximum

structure Model.ReadFrom (entry : Text × Json.Members) (m : Model) : Prop where
  name : m.name = entry.1
  description : MaySay entry.2 "description" m.description
  fields : List.Forall₂ Field.ReadFrom (entriesAt entry.2 "fields") m.fields

structure Parameter.ReadFrom (o : Json.Members) (p : Parameter) : Prop where
  name : Says o "name" p.name
  type : HasType o p.type
  required : Requires o p.required
  fallback : p.fallback = (o.get? "default").bind Json.Value.asDefault
  description : MaySay o "description" p.description
  minimum : Draft.boundOf o "minimum" = .ok p.minimum
  maximum : Draft.boundOf o "maximum" = .ok p.maximum

structure Body.ReadFrom (o : Json.Members) (b : Body) : Prop where
  type : HasType o b.type
  description : MaySay o "description" b.description

/-- A response; it may lack a type if its code is that of a response without content. -/
structure Response.ReadFrom (entry : Text × Json.Members) (r : Response) : Prop where
  code : Number.readInteger entry.1 = .ok r.code
  type : HasType entry.2 r.type ∨
    entry.2.get? "type" = none ∧ (r.code = 204 ∨ r.code = 304) ∧ r.type = "unit"
  description : MaySay entry.2 "description" r.description

/-- An operation of a resource with the given path. -/
structure Operation.ReadFrom (path : Text) (o : Json.Members) (op : Operation) : Prop where
  method : ∃ text, Says o "method" text ∧ Method.ofText? text = some op.method
  path : op.path = Path.join path ((o.get? "path").bind Json.Value.text?)
  description : MaySay o "description" op.description
  body : op.body = none ∧ (o.get? "body" = none ∨ o.get? "body" = some .null) ∨
    ∃ inner b, o.get? "body" = some (.object inner) ∧ op.body = some b ∧ b.ReadFrom inner
  parameters : List.Forall₂ Parameter.ReadFrom (entriesAt o "parameters") op.parameters
  responses : List.Forall₂ Response.ReadFrom (membersAt o "responses") op.responses

structure Resource.ReadFrom (entry : Text × Json.Members) (r : Resource) : Prop where
  type : r.type = entry.1.trim
  path : ∀ t, Says entry.2 "path" t → r.path = t
  description : MaySay entry.2 "description" r.description
  operations : List.Forall₂ (Operation.ReadFrom r.path) (entriesAt entry.2 "operations")
    r.operations

structure ReadFrom (document : Json.Members) (s : Service) : Prop where
  name : Says document "name" s.name
  description : MaySay document "description" s.description
  baseUrl : MaySay document "base_url" s.baseUrl
  imports : List.Forall₂ Import.ReadFrom (entriesAt document "imports") s.imports
  headers : List.Forall₂ Header.ReadFrom (entriesAt document "headers") s.headers
  enums : List.Forall₂ Enum.ReadFrom (membersAt document "enums") s.enums
  unions : List.Forall₂ Union.ReadFrom (membersAt document "unions") s.unions
  models : List.Forall₂ Model.ReadFrom (membersAt document "models") s.models
  resources : List.Forall₂ Resource.ReadFrom (membersAt document "resources") s.resources

/-! ### Containers and attributes -/

theorem objectsOf_eq (o : Json.Members) (key : Text) :
    Draft.objectsOf o key = entriesAt o key := by
  unfold Draft.objectsOf entriesAt
  cases o.get? key with
  | none => rfl
  | some value => cases value <;> rfl

theorem namedObjectsOf_eq (o : Json.Members) (key : Text) :
    Draft.namedObjectsOf o key = membersAt o key := by
  unfold Draft.namedObjectsOf membersAt
  cases o.get? key with
  | none => rfl
  | some value => cases value <;> rfl

theorem maySay_textOf (o : Json.Members) (key : Text) : MaySay o key (Draft.textOf o key) :=
  fun _ => Draft.textOf_eq_some_iff

theorem hasType_of_typeOf {label : Label} (h : Draft.typeOf o = some label) :
    HasType o label.text := by
  obtain ⟨t, ht, -, rfl⟩ := Draft.typeOf_eq_some_iff.1 h
  exact ⟨t, ht, rfl⟩

theorem requiredOf_cases (o : Json.Members) :
    o.get? "required" = some (.bool (Draft.requiredOf o)) ∨
      Draft.requiredOf o = true ∧ ∀ b, o.get? "required" ≠ some (.bool b) := by
  unfold Draft.requiredOf
  split
  · rename_i b hb
    exact Or.inl hb
  · rename_i hother
    exact Or.inr ⟨rfl, hother⟩

/-- Where a table asks for a Boolean, the flag is as written. -/
theorem requires_of_admits {table : Draft.Table} (h : table.Admits o)
    (ht : table.lookup ("required" : Text) = some [Json.Kind.boolean]) :
    Requires o (Draft.requiredOf o) := by
  rcases requiredOf_cases o with hb | ⟨htrue, hother⟩
  · exact Or.inl hb
  · refine Or.inr ⟨htrue, ?_⟩
    cases hv : o.get? "required" with
    | none => exact Or.inl rfl
    | some value =>
      obtain ⟨before, after, hsplit, -⟩ := List.lookup_eq_some_iff.1 hv
      obtain ⟨allowed, hallowed, hkind⟩ := h ("required", value) (by simp [hsplit])
      obtain rfl : [Json.Kind.boolean] = allowed := Option.some.inj (ht.symm.trans hallowed)
      cases value with
      | null => exact Or.inr rfl
      | bool b => exact absurd hv (hother b)
      | _ => simp [Json.Value.kind] at hkind

/-! ### Headers, enums and unions -/

theorem Import.readFrom_of_build {i : Import} (h : buildImport (Draft.importOf o) = .ok i) :
    i.ReadFrom o :=
  ⟨Draft.textOf_eq_some_iff.1 (buildImport_eq_ok_iff.1 h)⟩

theorem Header.readFrom_of_build {h : Header} (hb : buildHeader (Draft.headerOf o) = .ok h) :
    h.ReadFrom o := by
  obtain ⟨name, label, hn, hl, rfl⟩ := buildHeader_eq_ok_iff.1 hb
  exact {
    name := Draft.textOf_eq_some_iff.1 hn
    type := hasType_of_typeOf hl
    required := requiredOf_cases o
    fallback := rfl
    description := maySay_textOf o _ }

theorem EnumValue.readFrom_of_build {v : EnumValue}
    (h : buildEnumValue (Draft.enumValueOf o) = .ok v) : v.ReadFrom o := by
  obtain ⟨name, hn, rfl⟩ := buildEnumValue_eq_ok_iff.1 h
  exact ⟨Draft.textOf_eq_some_iff.1 hn, maySay_textOf o _⟩

theorem Enum.readFrom_of_build {entry : Text × Json.Members} {e : Enum}
    (h : buildEnum (Draft.enumOf entry.1 entry.2) = .ok e) : e.ReadFrom entry := by
  obtain ⟨values, hvalues, rfl⟩ := buildEnum_eq_ok_iff.1 h
  refine ⟨rfl, maySay_textOf entry.2 _, ?_⟩
  rw [← objectsOf_eq]
  exact forall₂_of_map_mapM hvalues fun _ _ _ hv => EnumValue.readFrom_of_build hv

theorem UnionMember.readFrom_of_build {m : UnionMember}
    (h : buildUnionMember (Draft.unionMemberOf o) = .ok m) : m.ReadFrom o := by
  obtain ⟨label, hl, rfl⟩ := buildUnionMember_eq_ok_iff.1 h
  exact ⟨hasType_of_typeOf hl, maySay_textOf o _⟩

theorem Union.readFrom_of_build {entry : Text × Json.Members} {u : Union}
    (h : buildUnion (Draft.unionOf entry.1 entry.2) = .ok u) : u.ReadFrom entry := by
  obtain ⟨members, hmembers, rfl⟩ := buildUnion_eq_ok_iff.1 h
  refine ⟨rfl, maySay_textOf entry.2 _, ?_⟩
  rw [← objectsOf_eq]
  exact forall₂_of_map_mapM hmembers fun _ _ _ hm => UnionMember.readFrom_of_build hm

/-! ### Fields and models -/

theorem Field.readFrom_of_build {f₀ : Draft.Field} {f : Field} (hf : Draft.fieldOf o = .ok f₀)
    (hb : buildField f₀ = .ok f) (hadmits : Draft.fieldTable.Admits o) : f.ReadFrom o := by
  obtain ⟨minimum, hmin, maximum, hmax, rfl⟩ := Draft.fieldOf_eq_ok_iff.1 hf
  obtain ⟨name, label, hn, hl, rfl⟩ := buildField_eq_ok_iff.1 hb
  exact {
    name := Draft.textOf_eq_some_iff.1 hn
    type := hasType_of_typeOf hl
    required := requires_of_admits hadmits rfl
    fallback := rfl
    description := maySay_textOf o _
    sample := rfl
    minimum := hmin
    maximum := hmax }

theorem Model.readFrom_of_build {entry : Text × Json.Members} {m₀ : Draft.Model} {m : Model}
    (hm : Draft.modelOf entry.1 entry.2 = .ok m₀) (hb : buildModel m₀ = .ok m)
    (hadmits : ∀ f ∈ Draft.objectsOf entry.2 "fields", Draft.fieldTable.Admits f) :
    m.ReadFrom entry := by
  obtain ⟨fields₀, hfields₀, rfl⟩ := Draft.modelOf_eq_ok_iff.1 hm
  obtain ⟨fields, hfields, rfl⟩ := buildModel_eq_ok_iff.1 hb
  refine ⟨rfl, maySay_textOf entry.2 _, ?_⟩
  rw [← objectsOf_eq]
  exact forall₂_of_mapM_mapM hfields₀ hfields fun f hmem _ _ hf hb =>
    Field.readFrom_of_build hf hb (hadmits f hmem)

/-! ### Operations and resources -/

theorem Parameter.readFrom_of_build {op : Draft.Operation} {method : Option Method}
    {p₀ : Draft.Parameter} {p : Parameter} (hp : Draft.parameterOf o = .ok p₀)
    (hb : buildParameter op method p₀ = .ok p) (hadmits : Draft.parameterTable.Admits o) :
    p.ReadFrom o := by
  obtain ⟨minimum, hmin, maximum, hmax, rfl⟩ := Draft.parameterOf_eq_ok_iff.1 hp
  obtain ⟨name, label, hn, hl, rfl⟩ := buildParameter_eq_ok_iff.1 hb
  exact {
    name := Draft.textOf_eq_some_iff.1 hn
    type := hasType_of_typeOf hl
    required := requires_of_admits hadmits rfl
    fallback := rfl
    description := maySay_textOf o _
    minimum := hmin
    maximum := hmax }

theorem readInteger_of_mem_codesWithoutContent {code : Text} {n : Int}
    (hc : code ∈ Draft.codesWithoutContent) (h : Number.readInteger code = .ok n) :
    n = 204 ∨ n = 304 := by
  have h204 : Number.readInteger "204" = .ok 204 := by decide
  have h304 : Number.readInteger "304" = .ok 304 := by decide
  rcases List.mem_pair.1 hc with rfl | rfl
  · exact Or.inl (Except.ok.inj (h.symm.trans h204))
  · exact Or.inr (Except.ok.inj (h.symm.trans h304))

theorem Response.readFrom_of_build {entry : Text × Json.Members} {r : Response}
    (h : buildResponse (Draft.responseOf entry.1 (.object entry.2)) = .ok r) :
    r.ReadFrom entry := by
  obtain ⟨code, label, hcode, hl, rfl⟩ := buildResponse_eq_ok_iff.1 h
  refine ⟨hcode, ?_, maySay_textOf entry.2 _⟩
  rcases Draft.responseTypeOf_eq_some_iff.1 hl with ht | ⟨hnone, hc, rfl⟩
  · exact Or.inl (hasType_of_typeOf ht)
  · exact Or.inr ⟨hnone, readInteger_of_mem_codesWithoutContent hc hcode, rfl⟩

theorem eq_map_object {members : Json.Members} (h : ∀ m ∈ members, ∃ inner, m.2 = .object inner) :
    members = (members.filterMap fun m => m.2.members?.map fun inner => (m.1, inner)).map
      fun entry => (entry.1, .object entry.2) := by
  induction members with
  | nil => rfl
  | cons member rest ih =>
    obtain ⟨hmember, hrest⟩ := List.forall_mem_cons.1 h
    obtain ⟨key, value⟩ := member
    obtain ⟨inner, rfl⟩ := hmember
    exact congrArg (List.cons (key, .object inner)) (ih hrest)

theorem responseMembers_eq_map
    (h : ∀ member ∈ Draft.responseMembers o, ∃ response, member.2 = .object response) :
    Draft.responseMembers o =
      (membersAt o "responses").map fun entry => (entry.1, .object entry.2) := by
  rw [← namedObjectsOf_eq]
  exact eq_map_object h

theorem readFrom_of_mapM_buildBody {body : Option Body}
    (h : (Draft.bodyOf (o.get? "body")).mapM buildBody = Except.ok body) :
    body = none ∧ (o.get? "body" = none ∨ o.get? "body" = some .null) ∨
      ∃ inner b, o.get? "body" = some (.object inner) ∧ body = some b ∧ b.ReadFrom inner := by
  rcases option_mapM_eq_ok_iff.1 h with ⟨hnone, rfl⟩ | ⟨b₀, b, hb₀, rfl, hb⟩
  · refine Or.inl ⟨rfl, ?_⟩
    cases hv : o.get? "body" with
    | none => exact Or.inl rfl
    | some value =>
      rw [hv] at hnone
      cases value <;> simp [Draft.bodyOf] at hnone ⊢
  · obtain ⟨label, hl, rfl⟩ := buildBody_eq_ok_iff.1 hb
    cases hv : o.get? "body" with
    | none =>
      rw [hv] at hb₀
      cases hb₀
    | some value =>
      rw [hv] at hb₀
      cases value with
      | object inner =>
        obtain rfl := Option.some.inj hb₀
        exact Or.inr ⟨inner, _, rfl, rfl, hasType_of_typeOf hl, maySay_textOf inner _⟩
      | null => cases hb₀
      | _ =>
        -- what is no object is a body without a type, and no service has one
        obtain rfl := Option.some.inj hb₀
        cases hl

theorem Operation.readFrom_of_build {path : Text} {op₀ : Draft.Operation} {op : Operation}
    (hop : Draft.operationOf path o = .ok op₀) (hb : buildOperation op₀ = .ok op)
    (hconforms : Draft.OperationConforms o) : op.ReadFrom path o := by
  obtain ⟨parameters₀, hparameters₀, rfl⟩ := Draft.operationOf_eq_ok_iff.1 hop
  obtain ⟨text, method, body, parameters, responses, ht, hm, hbody, hparameters, hresponses, rfl⟩ :=
    buildOperation_eq_ok_iff.1 hb
  -- all responses are objects, so none is left out when only those are looked at
  rw [responseMembers_eq_map fun member hmem =>
    (hconforms.responses member hmem).imp fun _ h => h.1, List.map_map] at hresponses
  exact {
    method := ⟨text, Draft.textOf_eq_some_iff.1 ht, hm⟩
    path := rfl
    description := maySay_textOf o _
    body := readFrom_of_mapM_buildBody hbody
    parameters := by
      rw [← objectsOf_eq]
      exact forall₂_of_mapM_mapM hparameters₀ hparameters fun p hmem _ _ hp hpb =>
        Parameter.readFrom_of_build hp hpb (hconforms.parameters p hmem).1
    responses := forall₂_of_map_mapM hresponses fun _ _ _ hr => Response.readFrom_of_build hr }

theorem Resource.readFrom_of_build {entry : Text × Json.Members} {r₀ : Draft.Resource}
    {r : Resource} (hr : Draft.resourceOf entry.1 entry.2 = .ok r₀) (hb : buildResource r₀ = .ok r)
    (hconforms : ∀ op ∈ Draft.objectsOf entry.2 "operations", Draft.OperationConforms op) :
    r.ReadFrom entry := by
  obtain ⟨operations₀, hoperations₀, rfl⟩ := Draft.resourceOf_eq_ok_iff.1 hr
  obtain ⟨operations, hoperations, rfl⟩ := buildResource_eq_ok_iff.1 hb
  exact {
    type := rfl
    path := by
      intro t ht
      change Draft.resourcePathOf entry.1 entry.2 = t
      rw [Draft.resourcePathOf, Draft.textOf_eq_some_iff.2 ht]
      rfl
    description := maySay_textOf entry.2 _
    operations := by
      rw [← objectsOf_eq]
      exact forall₂_of_mapM_mapM hoperations₀ hoperations fun op hmem _ _ hop hopb =>
        Operation.readFrom_of_build hop hopb (hconforms op hmem) }

/-! ### Services -/

theorem readFrom_of_build {c : Configuration} {document : Json.Members} {d : Draft} {s : Service}
    (hd : Draft.ofJson document = .ok d) (hb : build c d = .ok s)
    (hconforms : Draft.Conforms document) : s.ReadFrom document := by
  obtain ⟨models₀, hmodels₀, resources₀, hresources₀, rfl⟩ := Draft.ofJson_eq_ok_iff.1 hd
  obtain ⟨key, imports, headers, enums, unions, models, resources, name, -, himports, hheaders,
    henums, hunions, hmodels, hresources, hname, rfl⟩ := build_eq_ok_iff.1 hb
  exact {
    name := Draft.textOf_eq_some_iff.1 hname
    description := maySay_textOf document _
    baseUrl := maySay_textOf document _
    imports := by
      rw [← objectsOf_eq]
      exact forall₂_of_map_mapM himports fun _ _ _ hi => Import.readFrom_of_build hi
    headers := by
      rw [← objectsOf_eq]
      exact forall₂_of_map_mapM hheaders fun _ _ _ hh => Header.readFrom_of_build hh
    enums := by
      rw [← namedObjectsOf_eq]
      exact forall₂_of_map_mapM henums fun _ _ _ he => Enum.readFrom_of_build he
    unions := by
      rw [← namedObjectsOf_eq]
      exact forall₂_of_map_mapM hunions fun _ _ _ hu => Union.readFrom_of_build hu
    models := by
      rw [← namedObjectsOf_eq]
      refine forall₂_of_mapM_mapM hmodels₀ hmodels fun entry hmem _ _ hm hmb => ?_
      refine Model.readFrom_of_build hm hmb fun f hf => ?_
      exact (hconforms.fields f (List.mem_flatMap.2 ⟨entry, hmem, hf⟩)).1
    resources := by
      rw [← namedObjectsOf_eq]
      refine forall₂_of_mapM_mapM hresources₀ hresources fun entry hmem _ _ hr hrb => ?_
      refine Resource.readFrom_of_build hr hrb fun op hop => ?_
      exact hconforms.operations op (List.mem_flatMap.2 ⟨entry, hmem, hop⟩) }

end Service

/-- Every service that a document is accepted as has the elements that the document has, in the
same order, and each of them holds what the object in its place says. -/
theorem validate_accepted_reproduces {c : Configuration} {fetch : Fetch} {text : Text} {s : Service}
    (h : (validate c fetch text).outcome = .ok (.accepted s)) :
    ∃ members, readDocument text = .ok members ∧ s.ReadFrom members := by
  obtain ⟨members, d, hm, hd, -, hrules, hb, -⟩ := validate_eq_accepted_iff.1 h
  exact ⟨members, hm,
    Service.readFrom_of_build hd hb ((Draft.unwarned_iff_conforms hd).1 hrules.unwarned)⟩

/-- A document with entries that are no objects, an array where an object is asked for, blanks
around labels, and responses without types. -/
def shopDocument : Text := Text.ofLines [
  "\x7b\"name\": \"Shop\",",
  "\"imports\": [7, \x7b\"uri\": \"file:///a\"\x7d],",
  "\"headers\": [null, \x7b\"name\": \"X\",",
  "\"type\": \" uuid \", \"required\": 1\x7d],",
  "\"enums\": \x7b\"size\": \x7b\"values\": [\x7b\"name\": \"s\"\x7d,",
  "[], \x7b\"name\": \"m\", \"description\": \"medium\"\x7d]\x7d,",
  "\"junk\": 0\x7d, \"unions\": [],",
  "\"models\": \x7b\"item\": \x7b\"description\": \"ware\",",
  "\"fields\": [\x7b\"name\": \"id\", \"type\": \"long\",",
  "\"required\": null\x7d, \"x\", \x7b\"name\": \"sizes\",",
  "\"type\": \"[ size ]\", \"required\": false\x7d]\x7d\x7d,",
  "\"resources\": \x7b\" item \": \x7b\"path\": \"/items\",",
  "\"operations\": [\x7b\"method\": \" get \",",
  "\"parameters\": [\x7b\"name\": \"size\",",
  "\"type\": \"size\", \"default\": \"s\"\x7d],",
  "\"responses\": \x7b\"200\": \x7b\"type\": \"[item]\"\x7d,",
  "\"304\": \x7b\x7d\x7d\x7d, \x7b\"method\": \"delete\",",
  "\"path\": \":id\", \"responses\": \x7b\"204\":",
  "\x7b\"description\": \"done\"\x7d\x7d\x7d]\x7d\x7d\x7d"]

/-- The service that the document is accepted as. -/
def shopService : Service where
  name := "Shop"
  key := "shop"
  nameSpace := "com.example.shop.v0"
  organization := "example"
  version := "0.0.1-dev"
  description := none
  baseUrl := none
  imports := [⟨"file:///a"⟩]
  headers := [⟨"X", "uuid", true, none, none⟩]
  enums := [⟨"size", "sizes", none, [⟨"s", none⟩, ⟨"m", some "medium"⟩]⟩]
  unions := []
  models := [⟨"item", "items", some "ware",
    [⟨"id", "long", true, none, none, none, none, none⟩,
     ⟨"sizes", "[ size ]", false, none, none, none, none, none⟩]⟩]
  resources := [⟨"item", "items", "/items", none,
    [⟨.get, "/items", none, none, [⟨"size", "size", .query, true, some "s", none, none, none⟩],
        [⟨200, "[item]", none⟩, ⟨304, "unit", none⟩]⟩,
     ⟨.delete, "/items/:id", none, none, [], [⟨204, "unit", some "done"⟩]⟩]⟩]

theorem validate_shopDocument :
    (validate {} described shopDocument).outcome = .ok (.accepted shopService) := by
  decide +kernel

theorem shopService_reproduces :
    (validate {} described shopDocument).outcome = .ok (.accepted shopService) ∧
      ∃ members, readDocument shopDocument = .ok members ∧ shopService.ReadFrom members :=
  ⟨validate_shopDocument, validate_accepted_reproduces validate_shopDocument⟩

end ServiceContract
