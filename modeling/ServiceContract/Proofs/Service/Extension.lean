import ServiceContract.Proofs.Draft.Extension
import ServiceContract.Proofs.Service.Closed

/-!
# Services with further declarations

`Service.declare` puts further enums, unions and models behind those of a service.  Building a
draft with further declarations gives the service with what is built from these
(`build_declare`), and if the service had no errors as a whole it has none with clean declarations
of new names either (`errors_declare`).
-/

namespace ServiceContract

open Outcome

namespace Service

/-- Enums, unions and models that are declared together. -/
structure Declared where
  enums : List Enum := []
  unions : List Union := []
  models : List Model := []

/-- The service with further declarations behind its own ones. -/
def declare (s : Service) (new : Declared) : Service :=
  { s with
    enums := s.enums ++ new.enums
    unions := s.unions ++ new.unions
    models := s.models ++ new.models }

/-- What declarations of a draft are built to. -/
structure Declared.BuiltFrom (new₀ : Draft.Declared) (new : Declared) : Prop where
  enums : new₀.enums.mapM buildEnum = .ok new.enums
  unions : new₀.unions.mapM buildUnion = .ok new.unions
  models : new₀.models.mapM buildModel = .ok new.models

variable {c : Configuration} {d : Draft} {s : Service} {new₀ : Draft.Declared} {new : Declared}

/-! ### Building -/

theorem exists_builtFrom {types : Declarations} (h : new₀.Clean types) :
    ∃ new : Declared, new.BuiltFrom new₀ := by
  have henums : (new₀.enums.mapM buildEnum).isOk = true := by
    rw [mapM_isOk_iff]
    intro e he
    rw [buildEnum_isOk_iff]
    exact fun v hv => (h.enums e he).2.isSome _ (List.mem_map_of_mem hv)
  have hunions : (new₀.unions.mapM buildUnion).isOk = true := by
    rw [mapM_isOk_iff]
    intro u hu
    rw [buildUnion_isOk_iff]
    intro m hm
    obtain ⟨label, hl, -⟩ := (h.unions u hu).2 m hm
    rw [hl]
    rfl
  have hmodels : (new₀.models.mapM buildModel).isOk = true := by
    rw [mapM_isOk_iff]
    intro m hm
    rw [buildModel_isOk_iff]
    obtain ⟨hfields, hnames⟩ := h.models m hm
    intro f hf
    obtain ⟨label, hl, -⟩ := (hfields f hf).1
    exact ⟨hnames.isSome _ (List.mem_map_of_mem hf), by rw [hl]; rfl⟩
  obtain ⟨enums, henums⟩ := isOk_iff.1 henums
  obtain ⟨unions, hunions⟩ := isOk_iff.1 hunions
  obtain ⟨models, hmodels⟩ := isOk_iff.1 hmodels
  exact ⟨⟨enums, unions, models⟩, henums, hunions, hmodels⟩

/-- A draft with further declarations is built to its service with what these are built to. -/
theorem build_declare (h : build c d = .ok s) (hnew : new.BuiltFrom new₀) :
    build c (d.declare new₀) = .ok (s.declare new) := by
  obtain ⟨key, imports, headers, enums, unions, models, resources, name, hk, hi, hh, he, hu, hm,
    hr, hn, rfl⟩ := build_eq_ok_iff.1 h
  rw [build_eq_ok_iff]
  exact ⟨key, imports, headers, enums ++ new.enums, unions ++ new.unions, models ++ new.models,
    resources, name, hk, hi, hh, mapM_append_eq_ok he hnew.enums, mapM_append_eq_ok hu hnew.unions,
    mapM_append_eq_ok hm hnew.models, hr, hn, rfl⟩

/-! ### Checks of the whole service -/

theorem nodup_of_distinctlyNamed {α β : Type} {f : α → Except BuildFault β} {xs : List α}
    {ys : List β} {name₀ : α → Option Text} {name : β → Text} (h : xs.mapM f = .ok ys)
    (hname : ∀ x y, f x = .ok y → name₀ x = some (name y))
    (hnames : Draft.DistinctlyNamed (xs.map name₀)) : (ys.map name).Nodup := by
  obtain ⟨texts, htexts, hnodup⟩ := hnames
  have hmap : ys.map (fun y => some (name y)) = xs.map name₀ :=
    map_eq_of_mapM h fun x y hxy => (hname x y hxy).symm
  have hsome : (ys.map name).map some = texts.map some := by
    rw [List.map_map, ← htexts]
    exact hmap
  rwa [List.map_injective_iff.2 (fun _ _ => Option.some.inj) hsome]

theorem enumErrors_of_clean {e₀ : Draft.Enum} {e : Enum} (h : buildEnum e₀ = .ok e)
    (hne : e₀.values ≠ []) (hnames : Draft.DistinctlyNamed (e₀.values.map (·.name))) :
    enumErrors e = [] := by
  obtain ⟨values, hvalues, rfl⟩ := buildEnum_eq_ok_iff.1 h
  rw [enumErrors_eq_nil_iff]
  refine ⟨mapM_ne_nil hvalues hne, nodup_of_distinctlyNamed hvalues (fun v v' hv => ?_) hnames⟩
  obtain ⟨name, hn, rfl⟩ := buildEnumValue_eq_ok_iff.1 hv
  exact hn

theorem modelErrors_of_clean {m₀ : Draft.Model} {m : Model} (h : buildModel m₀ = .ok m)
    (hnames : Draft.DistinctlyNamed (m₀.fields.map (·.name))) : modelErrors m = [] := by
  obtain ⟨fields, hfields, rfl⟩ := buildModel_eq_ok_iff.1 h
  rw [modelErrors_eq_nil_iff]
  refine nodup_of_distinctlyNamed hfields (fun f f' hf => ?_) hnames
  obtain ⟨name, label, hn, -, rfl⟩ := buildField_eq_ok_iff.1 hf
  exact hn

theorem unionErrors_of_clean {types : Declarations} {u₀ : Draft.Union} {u : Union}
    (h : buildUnion u₀ = .ok u) (hne : u₀.members ≠ [])
    (htypes : ∀ m ∈ u₀.members, Rule.HasType types m.type)
    (hspelled : ∀ m ∈ u₀.members, ∀ label, m.type = some label → label.IsSpelled) :
    unionErrors types u = [] := by
  obtain ⟨members, hmembers, rfl⟩ := buildUnion_eq_ok_iff.1 h
  rw [unionErrors_eq_nil_iff]
  refine ⟨mapM_ne_nil hmembers hne, fun m hm => ?_⟩
  obtain ⟨m₀, hm₀, hb⟩ := exists_of_mem_mapM hmembers hm
  obtain ⟨label, hl, rfl⟩ := buildUnionMember_eq_ok_iff.1 hb
  obtain ⟨label', hl', hres⟩ := htypes m₀ hm₀
  obtain rfl : label' = label := Option.some.inj (hl'.symm.trans hl)
  show (types.resolveText? label'.text).isSome
  rwa [Declarations.resolveText?_of_isSpelled _ (hspelled m₀ hm₀ label' hl)]

theorem resolveText?_isSome_extend {types more : Declarations} (hnew : types.Fresh more)
    {text : Text} (h : (types.resolveText? text).isSome) :
    ((types.extend more).resolveText? text).isSome := by
  obtain ⟨type, ht⟩ := Option.isSome_iff_exists.1 h
  have hext := Declarations.resolve?_extend hnew ht
  rw [Declarations.resolveText?, hext]
  rfl

/-- A service without errors has none with clean declarations of new names behind its own ones. -/
theorem errors_declare (hb : build c d = .ok s) (hs : s.errors = [])
    (hbuilt : new.BuiltFrom new₀) (hclean : new₀.Clean (d.declare new₀).declarations)
    (hspelled : (d.declare new₀).Spelled) (hnew : d.declarations.Fresh new₀.names)
    (hnodup : new₀.names.names.Nodup) : (s.declare new).errors = [] := by
  have htypes : (s.declare new).declarations = d.declarations.extend new₀.names := by
    rw [build_declarations (build_declare hb hbuilt), Draft.declarations_declare]
  rw [Draft.declarations_declare] at hclean
  obtain ⟨htypeNames, henums, hmodels, hunions, hheaders, hresources⟩ := errors_eq_nil_iff.1 hs
  rw [typeNameErrors_eq_nil_iff, build_declarations hb] at htypeNames
  obtain ⟨hheaderTypes, hheaderNames⟩ := headerErrors_eq_nil_iff.1 hheaders
  rw [build_declarations hb] at hunions hheaderTypes hresources
  rw [errors_eq_nil_iff, typeNameErrors_eq_nil_iff, headerErrors_eq_nil_iff, htypes]
  refine ⟨?typeNames, ?enums, ?models, ?unions, ⟨?headers, hheaderNames⟩, ?resources⟩
  case typeNames =>
    rw [Declarations.names_extend_perm.nodup_iff, List.nodup_append]
    exact ⟨htypeNames, hnodup, fun n hn n' hn' heq => hnew n' hn' (heq ▸ hn)⟩
  case enums =>
    refine List.forall_mem_append.2 ⟨henums, fun e he => ?_⟩
    obtain ⟨e₀, he₀, hbe⟩ := exists_of_mem_mapM hbuilt.enums he
    exact enumErrors_of_clean hbe (hclean.enums e₀ he₀).1 (hclean.enums e₀ he₀).2
  case models =>
    refine List.forall_mem_append.2 ⟨hmodels, fun m hm => ?_⟩
    obtain ⟨m₀, hm₀, hbm⟩ := exists_of_mem_mapM hbuilt.models hm
    exact modelErrors_of_clean hbm (hclean.models m₀ hm₀).2
  case unions =>
    refine List.forall_mem_append.2 ⟨fun u hu => ?_, fun u hu => ?_⟩
    · obtain ⟨hne, hmembers⟩ := unionErrors_eq_nil_iff.1 (hunions u hu)
      rw [unionErrors_eq_nil_iff]
      exact ⟨hne, fun m hm => resolveText?_isSome_extend hnew (hmembers m hm)⟩
    · obtain ⟨u₀, hu₀, hbu⟩ := exists_of_mem_mapM hbuilt.unions hu
      refine unionErrors_of_clean hbu (hclean.unions u₀ hu₀).1 (hclean.unions u₀ hu₀).2 ?_
      exact hspelled.unionMembers u₀ (List.mem_append_right _ hu₀)
  case headers => exact fun h hh => resolveText?_isSome_extend hnew (hheaderTypes h hh)
  case resources =>
    intro r hr
    obtain ⟨htype, hops⟩ := resourceErrors_eq_nil_iff.1 (hresources r hr)
    rw [resourceErrors_eq_nil_iff]
    exact ⟨Declarations.mem_names_extend.2 (Or.inl htype), hops⟩

end Service

end ServiceContract
