import ServiceContract.Proofs.Json.Members
import ServiceContract.Proofs.Service.Extension
import ServiceContract.Proofs.Service.Reproduction
import ServiceContract.Proofs.Validation.Failure

/-!
# Documents with a further declaration

An accepted document stays accepted when a declaration of a new name is put behind the enums, the
models or the unions that it has, provided that the declaration itself is clean: its elements are
objects with different names where names are asked for and with types that resolve, the new name
included, and the fields of a model conform to their table.  The service is the old one with the
new declaration behind the others (`validate_accepts_declaration`).  The new name may be that of a
primitive type, which labels go on to mean.
-/

namespace ServiceContract

open Outcome

variable {c : Configuration} {fetch : Fetch} {text text' : Text} {s : Service}

/-! ### Documents -/

/-- `o'` has one member more than `o` at the end of the object under a key, which counts as empty
where `o` has nothing under that key, and the same as `o` under every other key. -/
structure Json.Members.Gains (o : Json.Members) (key : Text) (member : Text × Json.Value)
    (o' : Json.Members) : Prop where
  gained : ∃ inner, (o.get? key = some (.object inner) ∨ o.get? key = none ∧ inner = []) ∧
    o'.get? key = some (.object (inner ++ [member]))
  others : ∀ k, k ≠ key → o'.get? k = o.get? k

/-- The kinds of types that a document declares. -/
inductive Declarable where
  | enumeration
  | model
  | union
  deriving DecidableEq, Repr

namespace Declarable

/-- The key that the declarations of a kind stand under. -/
def key : Declarable → Text
  | enumeration => "enums"
  | model => "models"
  | union => "unions"

/-- A name as the only one of its kind. -/
def names (name : Text) : Declarable → Declarations
  | enumeration => ⟨[name], [], []⟩
  | model => ⟨[], [name], []⟩
  | union => ⟨[], [], [name]⟩

theorem names_names (kind : Declarable) (name : Text) : (kind.names name).names = [name] := by
  cases kind <;> rfl

end Declarable

namespace Service

/-- The objects all have a name that is a text, and no two of them have the same. -/
def NamedApart (os : List Json.Members) : Prop :=
  ∃ names, List.Forall₂ (fun o name => Says o "name" name) os names ∧ names.Nodup

/-- The object has a type, which is not blank and resolves. -/
def TypeResolves (types : Declarations) (o : Json.Members) : Prop :=
  ∃ t, Says o "type" t ∧ t.isEmptyOrBlank = false ∧ (types.resolveText? t).isSome

/-- An object that can be declared as an enum. -/
structure CleanEnum (o : Json.Members) : Prop where
  nonempty : entriesAt o "values" ≠ []
  names : NamedApart (entriesAt o "values")

/-- An object that can be declared as a union. -/
structure CleanUnion (types : Declarations) (o : Json.Members) : Prop where
  nonempty : entriesAt o "types" ≠ []
  types : ∀ m ∈ entriesAt o "types", TypeResolves types m

/-- An object that can be declared as a model: its fields draw no warnings, and no bound of theirs
is an integer beyond the range of doubles. -/
structure CleanModel (types : Declarations) (o : Json.Members) : Prop where
  elements : ∀ f ∈ entriesAt o "fields", Draft.fieldTable.Admits f ∧ ¬ Draft.IsBareMap f
  names : NamedApart (entriesAt o "fields")
  types : ∀ f ∈ entriesAt o "fields", TypeResolves types f
  bounds : ∀ f ∈ entriesAt o "fields", ∀ key ∈ (["minimum", "maximum"] : List Text), ∀ n,
    f.get? key = some (.int n) → n.natAbs < Number.Binary64.overflow

end Service

/-- An object that can be declared as a type of the kind, where `types` are declared. -/
def Declarable.Clean (types : Declarations) (o : Json.Members) : Declarable → Prop
  | .enumeration => Service.CleanEnum o
  | .model => Service.CleanModel types o
  | .union => Service.CleanUnion types o

/-- The one declaration of the kind that is read from an entry of a document. -/
def Declarable.ReadAs (entry : Text × Json.Members) (new : Service.Declared) : Declarable → Prop
  | .enumeration => ∃ e : Service.Enum, e.ReadFrom entry ∧ e.plural = UrlKey.plural entry.1 ∧
    new = { enums := [e] }
  | .model => ∃ m : Service.Model, m.ReadFrom entry ∧ m.plural = UrlKey.plural entry.1 ∧
    new = { models := [m] }
  | .union => ∃ u : Service.Union, u.ReadFrom entry ∧ u.plural = UrlKey.plural entry.1 ∧
    new = { unions := [u] }

/-! ### Reading the further declaration -/

namespace Draft

variable {o o' : Json.Members} {key : Text}

theorem namedObjectsOf_gains {name : Text} {inner : Json.Members}
    (h : o.Gains key (name, .object inner) o') :
    namedObjectsOf o' key = namedObjectsOf o key ++ [(name, inner)] := by
  obtain ⟨members, hold, hnew⟩ := h.gained
  have hmembers : ((o.get? key).getD .null).members = members := by
    rcases hold with hold | ⟨hold, rfl⟩
    · rw [hold]
      rfl
    · rw [hold]
      rfl
  unfold namedObjectsOf
  rw [hnew, hmembers]
  show (members ++ [(name, Json.Value.object inner)]).filterMap _ = _
  rw [List.filterMap_append]
  rfl

theorem hasType_typeOf {types : Declarations} (h : Service.TypeResolves types o) :
    Rule.HasType types (typeOf o) := by
  obtain ⟨t, ht, hb, hres⟩ := h
  exact ⟨Label.ofText t, typeOf_eq_some_iff.2 ⟨t, ht, hb, rfl⟩, hres⟩

theorem distinctlyNamed_of_namedApart {os : List Json.Members} (h : Service.NamedApart os) :
    DistinctlyNamed (os.map fun o => textOf o "name") := by
  obtain ⟨names, hnames, hnodup⟩ := h
  refine ⟨names, ?_, hnodup⟩
  clear hnodup
  induction hnames with
  | nil => rfl
  | cons ho _ ih => rw [List.map_cons, List.map_cons, ih, textOf_eq_some_iff.2 ho]

theorem clean_enumOf {name : Text} (h : Service.CleanEnum o) :
    (enumOf name o).values ≠ [] ∧ DistinctlyNamed ((enumOf name o).values.map (·.name)) := by
  rw [enumOf, Service.objectsOf_eq, List.map_map]
  exact ⟨by simpa using h.nonempty, distinctlyNamed_of_namedApart h.names⟩

theorem clean_unionOf {types : Declarations} {name : Text} (h : Service.CleanUnion types o) :
    (unionOf name o).members ≠ [] ∧ ∀ m ∈ (unionOf name o).members, Rule.HasType types m.type := by
  rw [unionOf, Service.objectsOf_eq]
  refine ⟨by simpa using h.nonempty, fun m hm => ?_⟩
  obtain ⟨member, hmember, rfl⟩ := List.mem_map.1 hm
  exact hasType_typeOf (h.types member hmember)

theorem boundsFit_of_clean {types : Declarations} (h : Service.CleanModel types o)
    {f : Json.Members} (hf : f ∈ Service.entriesAt o "fields") : BoundsFit f := by
  by_contra hfit
  obtain ⟨key, hkey, n, hn, hhuge⟩ := not_boundsFit_iff.1 hfit
  have hsmall := h.bounds f hf key hkey n hn
  omega

theorem exists_modelOf {types : Declarations} (name : Text) (h : Service.CleanModel types o) :
    ∃ m, modelOf name o = .ok m ∧ m.name = name ∧
      (∀ f ∈ m.fields, Rule.HasType types f.type ∧ f.warnings = []) ∧
      DistinctlyNamed (m.fields.map (·.name)) := by
  have hfit : ∀ f ∈ objectsOf o "fields", BoundsFit f := by
    intro f hf
    rw [Service.objectsOf_eq] at hf
    exact boundsFit_of_clean h hf
  obtain ⟨m, hm⟩ := isOk_iff.1 (modelOf_isOk_iff.2 hfit)
  refine ⟨m, hm, ?_⟩
  obtain ⟨fields, hfields, rfl⟩ := modelOf_eq_ok_iff.1 hm
  rw [Service.objectsOf_eq] at hfields
  refine ⟨rfl, fun f hf => ?_, ?_⟩
  · obtain ⟨member, hmember, hfm⟩ := exists_of_mem_mapM hfields hf
    refine ⟨?_, (fieldOf_warnings_eq_nil_iff hfm).2 (h.elements member hmember)⟩
    obtain ⟨_, -, _, -, rfl⟩ := fieldOf_eq_ok_iff.1 hfm
    exact hasType_typeOf (h.types member hmember)
  · have hnames : fields.map (·.name) =
        (Service.entriesAt o "fields").map fun f => textOf f "name" := by
      refine map_eq_of_mapM hfields fun member f hfm => ?_
      obtain ⟨_, -, _, -, rfl⟩ := fieldOf_eq_ok_iff.1 hfm
      rfl
    rw [hnames]
    exact distinctlyNamed_of_namedApart h.names

end Draft

namespace Declarable

open Draft

variable {types : Declarations} {inner : Json.Members} {new₀ : Draft.Declared}

/-- The declaration of the kind that is read into a draft. -/
def draftOf (name : Text) (o : Json.Members) : Declarable → Except BoundFault Draft.Declared
  | enumeration => .ok { enums := [enumOf name o] }
  | model => (modelOf name o).map fun m => { models := [m] }
  | union => .ok { unions := [unionOf name o] }

theorem exists_draftOf {kind : Declarable} (name : Text) (h : kind.Clean types inner) :
    ∃ new₀, kind.draftOf name inner = .ok new₀ ∧ new₀.names = kind.names name ∧
      new₀.Clean types := by
  cases kind with
  | enumeration =>
    refine ⟨_, rfl, rfl, ⟨?_, by simp, by simp⟩⟩
    exact List.forall_mem_singleton.2 (clean_enumOf h)
  | model =>
    obtain ⟨m, hm, rfl, hfields, hnames⟩ := exists_modelOf name h
    refine ⟨{ models := [m] }, by rw [draftOf, hm]; rfl, rfl, ⟨by simp, by simp, ?_⟩⟩
    exact List.forall_mem_singleton.2 ⟨hfields, hnames⟩
  | union =>
    refine ⟨_, rfl, rfl, ⟨by simp, ?_, by simp⟩⟩
    exact List.forall_mem_singleton.2 (clean_unionOf h)

/-- The draft of a document with a further declaration is the old draft with that declaration. -/
theorem ofJson_of_gains {kind : Declarable} {name : Text} {o o' : Json.Members} {d : Draft}
    (hd : ofJson o = .ok d) (hgains : o.Gains kind.key (name, .object inner) o')
    (hnew : kind.draftOf name inner = .ok new₀) : ofJson o' = .ok (d.declare new₀) := by
  obtain ⟨models, hmodels, resources, hresources, rfl⟩ := ofJson_eq_ok_iff.1 hd
  have htext : ∀ k, k ≠ kind.key → textOf o' k = textOf o k :=
    fun k hk => textOf_congr (hgains.others k hk)
  have hobjects : ∀ k, k ≠ kind.key → objectsOf o' k = objectsOf o k :=
    fun k hk => objectsOf_congr (hgains.others k hk)
  have hnamed : ∀ k, k ≠ kind.key → namedObjectsOf o' k = namedObjectsOf o k :=
    fun k hk => namedObjectsOf_congr (hgains.others k hk)
  have hentries := namedObjectsOf_gains hgains
  rw [ofJson_eq_ok_iff]
  -- the entries under the key of the kind are one more, and under other keys they are the same
  cases kind with
  | enumeration =>
    simp only [key] at htext hobjects hnamed hentries
    obtain rfl := Except.ok.inj hnew
    refine ⟨models, ?_, resources, ?_, ?_⟩
    · rwa [hnamed "models" (by decide)]
    · rwa [hnamed "resources" (by decide)]
    · simp (disch := decide) only [declare, htext, hobjects, hnamed, hentries, List.map_append,
        List.map_cons, List.map_nil, List.append_nil]
  | model =>
    simp only [key] at htext hobjects hnamed hentries
    obtain ⟨m, hm, rfl⟩ := map_eq_ok_iff.1 hnew
    refine ⟨models ++ [m], ?_, resources, ?_, ?_⟩
    · rw [hentries]
      exact mapM_append_eq_ok hmodels (mapM_singleton_eq_ok_iff.2 ⟨m, hm, rfl⟩)
    · rwa [hnamed "resources" (by decide)]
    · simp (disch := decide) only [declare, htext, hobjects, hnamed, List.append_nil]
  | union =>
    simp only [key] at htext hobjects hnamed hentries
    obtain rfl := Except.ok.inj hnew
    refine ⟨models, ?_, resources, ?_, ?_⟩
    · rwa [hnamed "models" (by decide)]
    · rwa [hnamed "resources" (by decide)]
    · simp (disch := decide) only [declare, htext, hobjects, hnamed, hentries, List.map_append,
        List.map_cons, List.map_nil, List.append_nil]

/-- What the declaration is built to holds what its entry of the document says. -/
theorem readAs_of_builtFrom {kind : Declarable} {name : Text} {new : Service.Declared}
    (hclean : kind.Clean types inner) (hnew : kind.draftOf name inner = .ok new₀)
    (hbuilt : new.BuiltFrom new₀) : kind.ReadAs (name, inner) new := by
  obtain ⟨enums, unions, models⟩ := new
  obtain ⟨henums, hunions, hmodels⟩ := hbuilt
  cases kind with
  | enumeration =>
    obtain rfl := Except.ok.inj hnew
    obtain ⟨e, he, rfl⟩ := mapM_singleton_eq_ok_iff.1 henums
    obtain rfl := mapM_nil_eq_ok_iff.1 hunions
    obtain rfl := mapM_nil_eq_ok_iff.1 hmodels
    refine ⟨e, Service.Enum.readFrom_of_build he, ?_, rfl⟩
    obtain ⟨_, -, rfl⟩ := Service.buildEnum_eq_ok_iff.1 he
    rfl
  | model =>
    obtain ⟨m₀, hm₀, rfl⟩ := map_eq_ok_iff.1 hnew
    obtain ⟨m, hm, rfl⟩ := mapM_singleton_eq_ok_iff.1 hmodels
    obtain rfl := mapM_nil_eq_ok_iff.1 henums
    obtain rfl := mapM_nil_eq_ok_iff.1 hunions
    refine ⟨m, Service.Model.readFrom_of_build hm₀ hm fun f hf => ?_, ?_, rfl⟩
    · rw [Service.objectsOf_eq] at hf
      exact (hclean.elements f hf).1
    · obtain ⟨_, -, rfl⟩ := modelOf_eq_ok_iff.1 hm₀
      obtain ⟨_, -, rfl⟩ := Service.buildModel_eq_ok_iff.1 hm
      rfl
  | union =>
    obtain rfl := Except.ok.inj hnew
    obtain ⟨u, hu, rfl⟩ := mapM_singleton_eq_ok_iff.1 hunions
    obtain rfl := mapM_nil_eq_ok_iff.1 henums
    obtain rfl := mapM_nil_eq_ok_iff.1 hmodels
    refine ⟨u, Service.Union.readFrom_of_build hu, ?_, rfl⟩
    obtain ⟨_, -, rfl⟩ := Service.buildUnion_eq_ok_iff.1 hu
    rfl

end Declarable

/-! ### Validation -/

theorem Service.type_mem_names_of_build {d : Draft} (hb : Service.build c d = .ok s)
    (hs : s.errors = []) : ∀ r ∈ d.resources, r.type.text ∈ d.declarations.names := by
  intro r hr
  have hresources := (Service.errors_eq_nil_iff.1 hs).2.2.2.2.2
  rw [Service.build_declarations hb] at hresources
  obtain ⟨_, _, _, _, _, _, resources, _, _, _, _, _, _, _, hres, _, rfl⟩ :=
    Service.build_eq_ok_iff.1 hb
  obtain ⟨r', hr', hbr⟩ := exists_result_of_mem_mapM hres hr
  obtain ⟨_, -, rfl⟩ := Service.buildResource_eq_ok_iff.1 hbr
  exact (Service.resourceErrors_eq_nil_iff.1 (hresources _ hr')).1

/-- An accepted document is still accepted with a clean declaration of a new name at the end of its
enums, models or unions, and its service is the old one with just this declaration at the end. -/
theorem validate_accepts_declaration {members members' : Json.Members}
    (h : (validate c fetch text).outcome = .ok (.accepted s))
    (hm : readDocument text = .ok members) (hm' : readDocument text' = .ok members')
    (kind : Declarable) {name : Text} {inner : Json.Members}
    (hgains : members.Gains kind.key (name, .object inner) members')
    (hname : name ∉ s.declarations.names)
    (hclean : kind.Clean (s.declarations.extend (kind.names name)) inner) :
    ∃ new, kind.ReadAs (name, inner) new ∧
      (validate c fetch text').outcome = .ok (.accepted (s.declare new)) := by
  obtain ⟨members₀, d, hm₀, hd, hdname, hrules, hb, hs⟩ := validate_eq_accepted_iff.1 h
  obtain rfl : members₀ = members := Except.ok.inj (hm₀.symm.trans hm)
  obtain ⟨new₀, hread, hnames, hnew₀⟩ := Declarable.exists_draftOf name hclean
  have hd' := Declarable.ofJson_of_gains hd hgains hread
  rw [Service.build_declarations hb] at hname hnew₀
  have hfresh : d.declarations.Fresh new₀.names := by
    intro n hn
    rw [hnames, Declarable.names_names, List.mem_singleton] at hn
    rwa [hn]
  have hnodup : new₀.names.names.Nodup := by
    rw [hnames, Declarable.names_names]
    exact List.nodup_singleton name
  have hnew₀ : new₀.Clean (d.declare new₀).declarations := by
    rwa [Draft.declarations_declare, hnames]
  obtain ⟨new, hbuilt⟩ := Service.exists_builtFrom hnew₀
  refine ⟨new, Declarable.readAs_of_builtFrom hclean hread hbuilt, validate_eq_accepted_iff.2
    ⟨members', _, hm', hd', hdname, ?_, Service.build_declare hb hbuilt, ?_⟩⟩
  · exact hrules.declare (Service.type_mem_names_of_build hb hs) hfresh hnew₀
  · exact Service.errors_declare hb hs hbuilt hnew₀ (Draft.ofJson_spelled hd') hfresh hnodup

/-- A document whose models are `pet` and what is written behind it. -/
def growingDocument (further : Text) : Text := Text.ofLines [
  "\x7b\"name\": \"Pets\", \"models\":",
  "\x7b\"pet\": \x7b\"fields\": [\x7b\"name\": \"id\",",
  "\"type\": \"string\"\x7d]\x7d", further, "\x7d, \"resources\":",
  "\x7b\"pet\": \x7b\"operations\": [\x7b\"method\": \"GET\",",
  "\"path\": \"/:id\", \"responses\":",
  "\x7b\"200\": \x7b\"type\": \"pet\"\x7d\x7d\x7d]\x7d\x7d\x7d"]

/-- The members of the document. -/
def growingMembers (further : Json.Members) : Json.Members :=
  [("name", .string "Pets"),
   ("models", .object (("pet", .object [("fields", .array [.object
     [("name", .string "id"), ("type", .string "string")]])]) :: further)),
   ("resources", .object [("pet", .object [("operations", .array [.object
     [("method", .string "GET"), ("path", .string "/:id"),
      ("responses", .object [("200", .object [("type", .string "pet")])])]])])])]

/-- A model with the name of a primitive type; its field is a list of that. -/
def namesakeModel : Text :=
  Text.ofLines [", \"string\": \x7b\"fields\": [\x7b\"name\":", "\"id\", \"type\": \"[string]\"\x7d]\x7d"]

/-- The members of the model. -/
def namesakeMembers : Json.Members :=
  [("fields", .array [.object [("name", .string "id"), ("type", .string "[string]")]])]

/-- The service that the document without a further model is accepted as. -/
def growingService : Service where
  name := "Pets"
  key := "pets"
  nameSpace := "com.example.pets.v0"
  organization := "example"
  version := "0.0.1-dev"
  description := none
  baseUrl := none
  imports := []
  headers := []
  enums := []
  unions := []
  models := [⟨"pet", "pets", none, [⟨"id", "string", true, none, none, none, none, none⟩]⟩]
  resources := [⟨"pet", "pets", "/pets", none,
    [⟨.get, "/pets/:id", none, none, [], [⟨200, "pet", none⟩]⟩]⟩]

theorem growingMembers_gains (member : Text × Json.Value) :
    (growingMembers []).Gains "models" member (growingMembers [member]) where
  gained := ⟨_, Or.inl rfl, rfl⟩
  others := by
    intro k hk
    simp only [growingMembers, Json.Members.get?_cons, if_neg hk]

theorem clean_namesakeMembers {types : Declarations} :
    Service.CleanModel types namesakeMembers where
  elements := List.forall_mem_singleton.2
    ⟨Draft.Table.warnings_eq_nil_iff.1 rfl, Draft.labelWarnings_typeOf_eq_nil_iff.1 rfl⟩
  names := ⟨["id"], .cons rfl .nil, List.nodup_singleton _⟩
  types := List.forall_mem_singleton.2 ⟨"[string]", rfl, by decide, rfl⟩
  bounds := by
    refine List.forall_mem_singleton.2 fun key hkey n hn => ?_
    rcases List.mem_pair.1 hkey with rfl | rfl
    · cases hn
    · cases hn

set_option maxRecDepth 1000 in
theorem growingDocument_accepts_namesake :
    (validate {} unreachable (growingDocument [])).outcome = .ok (.accepted growingService) ∧
    readDocument (growingDocument []) = .ok (growingMembers []) ∧
    readDocument (growingDocument namesakeModel) =
      .ok (growingMembers [("string", .object namesakeMembers)]) ∧
    ∃ new, Declarable.model.ReadAs ("string", namesakeMembers) new ∧
      (validate {} unreachable (growingDocument namesakeModel)).outcome =
        .ok (.accepted (growingService.declare new)) := by
  have haccepted : (validate {} unreachable (growingDocument [])).outcome =
      .ok (.accepted growingService) := by decide +kernel
  have hread : readDocument (growingDocument []) = .ok (growingMembers []) := by cbv
  have hread' : readDocument (growingDocument namesakeModel) =
      .ok (growingMembers [("string", .object namesakeMembers)]) := by cbv
  exact ⟨haccepted, hread, hread',
    validate_accepts_declaration haccepted hread hread' .model (growingMembers_gains _) (by decide)
      clean_namesakeMembers⟩

end ServiceContract
