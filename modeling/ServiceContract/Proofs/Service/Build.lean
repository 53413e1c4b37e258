import ServiceContract.Proofs.Outcome
import ServiceContract.Service.Build

/-!
# What a draft needs to be built

`Service.build` asks for names, types, methods and codes at many places.  `Draft.Complete` lists
them, and `build_isOk_iff` shows that the list has all of them and none too many.  For a build
that succeeds, `build_eq_ok_iff` and the lemmas `build…_eq_ok_iff` tell, element by element, what
the service holds.
-/

namespace ServiceContract

open Outcome

namespace Draft

/-- An operation that has all that an operation of a service needs. -/
structure Operation.Complete (op : Operation) : Prop where
  method : ∃ text, op.method = some text ∧ (Method.ofText? text).isSome
  body : ∀ b ∈ op.body, b.type.isSome
  parameters : ∀ p ∈ op.parameters, p.name.isSome ∧ p.type.isSome
  responses : ∀ r ∈ op.responses, r.type.isSome ∧ ∃ code, Number.readInteger r.code = .ok code

/-- A draft that has all that a service needs. -/
structure Complete (d : Draft) : Prop where
  name : d.name.isSome
  imports : ∀ i ∈ d.imports, i.uri.isSome
  headers : ∀ h ∈ d.headers, h.name.isSome ∧ h.type.isSome
  enumValues : ∀ e ∈ d.enums, ∀ v ∈ e.values, v.name.isSome
  unionMembers : ∀ u ∈ d.unions, ∀ m ∈ u.members, m.type.isSome
  fields : ∀ m ∈ d.models, ∀ f ∈ m.fields, f.name.isSome ∧ f.type.isSome
  operations : ∀ r ∈ d.resources, ∀ op ∈ r.operations, op.Complete

end Draft

namespace Service

/-! ### Names and types -/

theorem nameText_eq_ok_iff {name : Option Text} {t : Text} :
    nameText name = .ok t ↔ name = some t := by
  cases name <;> simp [nameText]

theorem typeText_eq_ok_iff {type : Option Label} {t : Text} :
    typeText type = .ok t ↔ ∃ label, type = some label ∧ label.text = t := by
  cases type <;> simp [typeText]

theorem nameText_isOk (name : Option Text) : (nameText name).isOk = name.isSome := by
  cases name <;> rfl

theorem typeText_isOk (type : Option Label) : (typeText type).isOk = type.isSome := by
  cases type <;> rfl

/-- Headers, fields and parameters are built from a type and a name, in this order. -/
theorem typed_eq_ok_iff {α : Type} {name : Option Text} {type : Option Label}
    {g : Text → Text → α} {a : α} :
    (do let t ← typeText type
        let n ← nameText name
        return g n t) = Except.ok a ↔
      ∃ n label, name = some n ∧ type = some label ∧ a = g n label.text := by
  simp only [bind_eq_ok_iff, pure_eq_ok_iff, typeText_eq_ok_iff, nameText_eq_ok_iff]
  constructor
  · rintro ⟨_, ⟨label, hl, rfl⟩, n, hn, rfl⟩
    exact ⟨n, label, hn, hl, rfl⟩
  · rintro ⟨n, label, hn, hl, rfl⟩
    exact ⟨_, ⟨label, hl, rfl⟩, n, hn, rfl⟩

theorem typed_isOk_iff {α : Type} {name : Option Text} {type : Option Label}
    {g : Text → Text → α} :
    (do let t ← typeText type
        let n ← nameText name
        return g n t : Except BuildFault α).isOk = true ↔ name.isSome ∧ type.isSome := by
  rw [isOk_bind_const_iff (p := name.isSome = true)]
  · rw [typeText_isOk, and_comm]
  · intro t
    rw [isOk_bind_pure, nameText_isOk]

/-- Union members and bodies are built from a type alone. -/
theorem ofType_eq_ok_iff {α : Type} {type : Option Label} {g : Text → α} {a : α} :
    (do let t ← typeText type
        return g t) = Except.ok a ↔ ∃ label, type = some label ∧ a = g label.text := by
  simp only [bind_eq_ok_iff, pure_eq_ok_iff, typeText_eq_ok_iff]
  constructor
  · rintro ⟨_, ⟨label, hl, rfl⟩, rfl⟩
    exact ⟨label, hl, rfl⟩
  · rintro ⟨label, hl, rfl⟩
    exact ⟨_, ⟨label, hl, rfl⟩, rfl⟩

theorem ofType_isOk_iff {α : Type} {type : Option Label} {g : Text → α} :
    (do let t ← typeText type
        return g t : Except BuildFault α).isOk = true ↔ type.isSome := by
  rw [isOk_bind_pure, typeText_isOk]

/-! ### What the elements of a service are built from -/

theorem buildImport_eq_ok_iff {i : Draft.Import} {i' : Import} :
    buildImport i = .ok i' ↔ i.uri = some i'.uri := by
  simp only [buildImport, map_eq_ok_iff, nameText_eq_ok_iff]
  constructor
  · rintro ⟨uri, hu, rfl⟩
    exact hu
  · intro hu
    exact ⟨i'.uri, hu, rfl⟩

theorem buildHeader_eq_ok_iff {h : Draft.Header} {h' : Header} :
    buildHeader h = .ok h' ↔ ∃ name label, h.name = some name ∧ h.type = some label ∧
      h' = ⟨name, label.text, h.required, h.fallback, h.description⟩ := by
  unfold buildHeader
  exact typed_eq_ok_iff

theorem buildEnumValue_eq_ok_iff {v : Draft.EnumValue} {v' : EnumValue} :
    buildEnumValue v = .ok v' ↔ ∃ name, v.name = some name ∧ v' = ⟨name, v.description⟩ := by
  simp only [buildEnumValue, bind_eq_ok_iff, pure_eq_ok_iff, nameText_eq_ok_iff]

theorem buildEnum_eq_ok_iff {e : Draft.Enum} {e' : Enum} :
    buildEnum e = .ok e' ↔ ∃ values, e.values.mapM buildEnumValue = .ok values ∧
      e' = ⟨e.name, UrlKey.plural e.name, e.description, values⟩ := by
  simp only [buildEnum, bind_eq_ok_iff, pure_eq_ok_iff]

theorem buildUnionMember_eq_ok_iff {m : Draft.UnionMember} {m' : UnionMember} :
    buildUnionMember m = .ok m' ↔
      ∃ label, m.type = some label ∧ m' = ⟨label.text, m.description⟩ := by
  unfold buildUnionMember
  exact ofType_eq_ok_iff

theorem buildUnion_eq_ok_iff {u : Draft.Union} {u' : Union} :
    buildUnion u = .ok u' ↔ ∃ members, u.members.mapM buildUnionMember = .ok members ∧
      u' = ⟨u.name, UrlKey.plural u.name, u.description, members⟩ := by
  simp only [buildUnion, bind_eq_ok_iff, pure_eq_ok_iff]

theorem buildField_eq_ok_iff {f : Draft.Field} {f' : Field} :
    buildField f = .ok f' ↔ ∃ name label, f.name = some name ∧ f.type = some label ∧
      f' = ⟨name, label.text, f.required, f.fallback, f.description, f.sample, f.minimum,
        f.maximum⟩ := by
  unfold buildField
  exact typed_eq_ok_iff

theorem buildModel_eq_ok_iff {m : Draft.Model} {m' : Model} :
    buildModel m = .ok m' ↔ ∃ fields, m.fields.mapM buildField = .ok fields ∧
      m' = ⟨m.name, UrlKey.plural m.name, m.description, fields⟩ := by
  simp only [buildModel, bind_eq_ok_iff, pure_eq_ok_iff]

theorem buildParameter_eq_ok_iff {op : Draft.Operation} {method : Option Method}
    {p : Draft.Parameter} {p' : Parameter} :
    buildParameter op method p = .ok p' ↔ ∃ name label, p.name = some name ∧
      p.type = some label ∧ p' = ⟨name, label.text, locationOf op method p, p.required,
        p.fallback, p.description, p.minimum, p.maximum⟩ := by
  unfold buildParameter
  exact typed_eq_ok_iff

theorem buildBody_eq_ok_iff {b : Draft.Body} {b' : Body} :
    buildBody b = .ok b' ↔ ∃ label, b.type = some label ∧ b' = ⟨label.text, b.description⟩ := by
  unfold buildBody
  exact ofType_eq_ok_iff

theorem buildResponse_eq_ok_iff {r : Draft.Response} {r' : Response} :
    buildResponse r = .ok r' ↔ ∃ code label, Number.readInteger r.code = .ok code ∧
      r.type = some label ∧ r' = ⟨code, label.text, r.description⟩ := by
  simp only [buildResponse, bind_eq_ok_iff, pure_eq_ok_iff, mapError_eq_ok_iff,
    typeText_eq_ok_iff]
  constructor
  · rintro ⟨code, hc, _, ⟨label, hl, rfl⟩, rfl⟩
    exact ⟨code, label, hc, hl, rfl⟩
  · rintro ⟨code, label, hc, hl, rfl⟩
    exact ⟨code, hc, _, ⟨label, hl, rfl⟩, rfl⟩

theorem methodOf_eq_ok_iff {op : Draft.Operation} {method : Option Method} :
    methodOf op = .ok method ↔ ∃ text, op.method = some text ∧ Method.ofText? text = method := by
  unfold methodOf
  cases op.method <;> simp

theorem buildOperation_eq_ok_iff {op : Draft.Operation} {op' : Operation} :
    buildOperation op = .ok op' ↔ ∃ text method body parameters responses,
      op.method = some text ∧ Method.ofText? text = some method ∧
      op.body.mapM buildBody = .ok body ∧
      op.parameters.mapM (buildParameter op (some method)) = .ok parameters ∧
      op.responses.mapM buildResponse = .ok responses ∧
      op' = ⟨method, op.path, op.description, body, parameters, responses⟩ := by
  simp only [buildOperation, bind_eq_ok_iff, methodOf_eq_ok_iff]
  constructor
  · rintro ⟨body, hb, method, ⟨text, ht, hm⟩, parameters, hp, responses, hr, h⟩
    cases method with
    | none => simp at h
    | some method =>
      exact ⟨text, method, body, parameters, responses, ht, hm, hb, hp, hr, pure_eq_ok_iff.1 h⟩
  · rintro ⟨text, method, body, parameters, responses, ht, hm, hb, hp, hr, rfl⟩
    exact ⟨body, hb, some method, ⟨text, ht, hm⟩, parameters, hp, responses, hr, rfl⟩

theorem buildResource_eq_ok_iff {r : Draft.Resource} {r' : Resource} :
    buildResource r = .ok r' ↔ ∃ operations, r.operations.mapM buildOperation = .ok operations ∧
      r' = ⟨r.type.text, UrlKey.plural r.type.text, r.path, r.description, operations⟩ := by
  simp only [buildResource, bind_eq_ok_iff, pure_eq_ok_iff]

theorem build_eq_ok_iff {c : Configuration} {d : Draft} {s : Service} :
    build c d = .ok s ↔ ∃ key imports headers enums unions models resources name,
      keyOf d = .ok key ∧ d.imports.mapM buildImport = .ok imports ∧
      d.headers.mapM buildHeader = .ok headers ∧ d.enums.mapM buildEnum = .ok enums ∧
      d.unions.mapM buildUnion = .ok unions ∧ d.models.mapM buildModel = .ok models ∧
      d.resources.mapM buildResource = .ok resources ∧ d.name = some name ∧
      s = ⟨name, key, (given? d.nameSpace).getD (c.applicationNamespace key), c.orgKey,
        c.version, d.description, d.baseUrl, imports, headers, enums, unions, models,
        resources⟩ := by
  simp only [build, bind_eq_ok_iff, pure_eq_ok_iff, nameText_eq_ok_iff]
  constructor
  · rintro ⟨key, hk, imports, hi, headers, hh, enums, he, unions, hu, models, hm, resources, hr,
      name, hn, rfl⟩
    exact ⟨key, imports, headers, enums, unions, models, resources, name, hk, hi, hh, he, hu, hm,
      hr, hn, rfl⟩
  · rintro ⟨key, imports, headers, enums, unions, models, resources, name, hk, hi, hh, he, hu, hm,
      hr, hn, rfl⟩
    exact ⟨key, hk, imports, hi, headers, hh, enums, he, unions, hu, models, hm, resources, hr,
      name, hn, rfl⟩

/-! ### Where the elements of a service come from -/

section

variable {c : Configuration} {d : Draft} {s : Service}

/-- A service declares the names that its draft declares. -/
theorem build_declarations (h : build c d = .ok s) : s.declarations = d.declarations := by
  obtain ⟨_, _, _, _, _, _, _, _, _, _, _, he, hu, hm, _, _, rfl⟩ := build_eq_ok_iff.1 h
  unfold declarations Draft.declarations
  congr 1
  · refine map_eq_of_mapM he fun e e' hb => ?_
    obtain ⟨_, -, rfl⟩ := buildEnum_eq_ok_iff.1 hb
    rfl
  · refine map_eq_of_mapM hm fun m m' hb => ?_
    obtain ⟨_, -, rfl⟩ := buildModel_eq_ok_iff.1 hb
    rfl
  · refine map_eq_of_mapM hu fun u u' hb => ?_
    obtain ⟨_, -, rfl⟩ := buildUnion_eq_ok_iff.1 hb
    rfl

theorem exists_field_of_build (h : build c d = .ok s) {m' : Model} (hm : m' ∈ s.models)
    {f' : Field} (hf : f' ∈ m'.fields) :
    ∃ m ∈ d.models, ∃ f ∈ m.fields, buildField f = .ok f' := by
  obtain ⟨_, _, _, _, _, models, _, _, _, _, _, _, _, hmodels, _, _, rfl⟩ := build_eq_ok_iff.1 h
  obtain ⟨m, hmem, hb⟩ := exists_of_mem_mapM hmodels hm
  obtain ⟨fields, hfields, rfl⟩ := buildModel_eq_ok_iff.1 hb
  obtain ⟨f, hfmem, hfb⟩ := exists_of_mem_mapM hfields hf
  exact ⟨m, hmem, f, hfmem, hfb⟩

theorem exists_resource_of_build (h : build c d = .ok s) {r' : Resource} (hr : r' ∈ s.resources) :
    ∃ r ∈ d.resources, buildResource r = .ok r' := by
  obtain ⟨_, _, _, _, _, _, resources, _, _, _, _, _, _, _, hresources, _, rfl⟩ :=
    build_eq_ok_iff.1 h
  exact exists_of_mem_mapM hresources hr

theorem exists_operation_of_build (h : build c d = .ok s) {r' : Resource} (hr : r' ∈ s.resources)
    {op' : Operation} (hop : op' ∈ r'.operations) :
    ∃ r ∈ d.resources, ∃ op ∈ r.operations, buildOperation op = .ok op' := by
  obtain ⟨r, hmem, hb⟩ := exists_resource_of_build h hr
  obtain ⟨operations, hoperations, rfl⟩ := buildResource_eq_ok_iff.1 hb
  obtain ⟨op, hopmem, hopb⟩ := exists_of_mem_mapM hoperations hop
  exact ⟨r, hmem, op, hopmem, hopb⟩

end

/-! ### When the elements can be built -/

theorem buildImport_isOk (i : Draft.Import) : (buildImport i).isOk = i.uri.isSome := by
  rw [buildImport, isOk_map, nameText_isOk]

theorem buildHeader_isOk_iff {h : Draft.Header} :
    (buildHeader h).isOk = true ↔ h.name.isSome ∧ h.type.isSome := by
  unfold buildHeader
  exact typed_isOk_iff

theorem buildEnumValue_isOk_iff {v : Draft.EnumValue} :
    (buildEnumValue v).isOk = true ↔ v.name.isSome := by
  unfold buildEnumValue
  rw [isOk_bind_pure, nameText_isOk]

theorem buildEnum_isOk_iff {e : Draft.Enum} :
    (buildEnum e).isOk = true ↔ ∀ v ∈ e.values, v.name.isSome := by
  unfold buildEnum
  rw [mapM_return_isOk_iff]
  simp only [buildEnumValue_isOk_iff]

theorem buildUnionMember_isOk_iff {m : Draft.UnionMember} :
    (buildUnionMember m).isOk = true ↔ m.type.isSome := by
  unfold buildUnionMember
  exact ofType_isOk_iff

theorem buildUnion_isOk_iff {u : Draft.Union} :
    (buildUnion u).isOk = true ↔ ∀ m ∈ u.members, m.type.isSome := by
  unfold buildUnion
  rw [mapM_return_isOk_iff]
  simp only [buildUnionMember_isOk_iff]

theorem buildModel_isOk_iff {m : Draft.Model} :
    (buildModel m).isOk = true ↔ ∀ f ∈ m.fields, f.name.isSome ∧ f.type.isSome := by
  unfold buildModel buildField
  rw [mapM_return_isOk_iff]
  simp only [typed_isOk_iff]

theorem buildBody_isOk_iff {b : Draft.Body} : (buildBody b).isOk = true ↔ b.type.isSome := by
  unfold buildBody
  exact ofType_isOk_iff

theorem buildParameter_isOk_iff (op : Draft.Operation) (method : Option Method)
    {p : Draft.Parameter} :
    (buildParameter op method p).isOk = true ↔ p.name.isSome ∧ p.type.isSome := by
  unfold buildParameter
  exact typed_isOk_iff

theorem buildResponse_isOk_iff {r : Draft.Response} :
    (buildResponse r).isOk = true ↔
      r.type.isSome ∧ ∃ code, Number.readInteger r.code = .ok code := by
  unfold buildResponse
  rw [isOk_bind_const_iff (p := r.type.isSome = true)]
  · rw [isOk_mapError, isOk_iff, and_comm]
  · intro code
    rw [isOk_bind_pure, typeText_isOk]

theorem buildOperation_isOk_iff {op : Draft.Operation} :
    (buildOperation op).isOk = true ↔ op.Complete := by
  rw [isOk_iff]
  simp only [buildOperation_eq_ok_iff]
  constructor
  · rintro ⟨_, text, method, body, parameters, responses, ht, hm, hb, hp, hr, -⟩
    have hb' := option_mapM_isOk_iff.1 (isOk_iff.2 ⟨body, hb⟩)
    have hp' := mapM_isOk_iff.1 (isOk_iff.2 ⟨parameters, hp⟩)
    have hr' := mapM_isOk_iff.1 (isOk_iff.2 ⟨responses, hr⟩)
    exact {
      method := ⟨text, ht, by simp [hm]⟩
      body := fun b h => buildBody_isOk_iff.1 (hb' b h)
      parameters := fun p h => (buildParameter_isOk_iff op _).1 (hp' p h)
      responses := fun r h => buildResponse_isOk_iff.1 (hr' r h) }
  · rintro ⟨⟨text, ht, hm⟩, hb, hp, hr⟩
    obtain ⟨method, hm⟩ := Option.isSome_iff_exists.1 hm
    obtain ⟨body, hb⟩ := isOk_iff.1 (option_mapM_isOk_iff.2 fun b h =>
      buildBody_isOk_iff.2 (hb b h))
    obtain ⟨parameters, hp⟩ := isOk_iff.1 (mapM_isOk_iff.2 fun p h =>
      (buildParameter_isOk_iff op (some method)).2 (hp p h))
    obtain ⟨responses, hr⟩ := isOk_iff.1 (mapM_isOk_iff.2 fun r h =>
      buildResponse_isOk_iff.2 (hr r h))
    exact ⟨_, text, method, body, parameters, responses, ht, hm, hb, hp, hr, rfl⟩

theorem buildResource_isOk_iff {r : Draft.Resource} :
    (buildResource r).isOk = true ↔ ∀ op ∈ r.operations, op.Complete := by
  unfold buildResource
  rw [mapM_return_isOk_iff]
  simp only [buildOperation_isOk_iff]

/-- A name is enough for a key. -/
theorem keyOf_isOk {d : Draft} (h : d.name.isSome) : (keyOf d).isOk = true := by
  obtain ⟨name, hn⟩ := Option.isSome_iff_exists.1 h
  unfold keyOf
  rw [hn]
  cases given? d.key <;> rfl

/-- A draft can be built exactly when it has all that a service needs. -/
theorem build_isOk_iff {c : Configuration} {d : Draft} :
    (build c d).isOk = true ↔ d.Complete := by
  -- No part of a service depends on what another part is built to, so the parts come apart.
  simp only [build, isOk_bind_iff, isOk_pure, and_true, exists_and_right, ← isOk_iff,
    mapM_isOk_iff, buildImport_isOk, buildHeader_isOk_iff, buildEnum_isOk_iff,
    buildUnion_isOk_iff, buildModel_isOk_iff, buildResource_isOk_iff, nameText_isOk]
  constructor
  · rintro ⟨-, hi, hh, he, hu, hm, hr, hn⟩
    exact ⟨hn, hi, hh, he, hu, hm, hr⟩
  · rintro ⟨hn, hi, hh, he, hu, hm, hr⟩
    exact ⟨keyOf_isOk hn, hi, hh, he, hu, hm, hr, hn⟩

end Service

end ServiceContract
