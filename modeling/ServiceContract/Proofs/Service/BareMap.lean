import ServiceContract.Proofs.Service.Reproduction

/-!
# Where accepted services have the bare word `map` as a type

The bare word `map` draws a warning wherever it is read as a label, but only fields, parameters and
responses carry the warning on to a rule.  So no field, parameter or response of an accepted service
has that type, while a header, a member of a union or a body has it whenever the object that it is
read from does (`accepted_bareMaps`).
-/

namespace ServiceContract

namespace Service

variable {o document : Json.Members} {s : Service}

/-! ### Labels and what they are read from -/

/-- A statement about some element of a list, as one about some element of a related list. -/
theorem exists_mem_iff_of_forall₂ {α β : Type} {r : α → β → Prop} {p : α → Prop} {q : β → Prop}
    {xs : List α} {ys : List β} (h : List.Forall₂ r xs ys)
    (hpq : ∀ x y, r x y → (q y ↔ p x)) : (∃ y ∈ ys, q y) ↔ ∃ x ∈ xs, p x := by
  induction h with
  | nil => simp
  | cons hxy _ ih => simp only [List.mem_cons, exists_eq_or_imp, hpq _ _ hxy, ih]

theorem eq_map_iff_of_hasType {type : Text} (h : HasType o type) :
    type = "map" ↔ Draft.IsBareMap o := by
  obtain ⟨t, ht, rfl⟩ := h
  constructor
  · intro hmap
    exact ⟨t, ht, hmap⟩
  · rintro ⟨t', ht', hmap⟩
    obtain rfl : t = t' := by simpa using ht.symm.trans ht'
    exact hmap

theorem Response.ReadFrom.eq_map_iff {entry : Text × Json.Members} {r : Response}
    (h : r.ReadFrom entry) : r.type = "map" ↔ Draft.IsBareMap entry.2 := by
  rcases h.type with htype | ⟨hnone, -, hunit⟩
  · exact eq_map_iff_of_hasType htype
  · have hmap : r.type ≠ "map" := by
      rw [hunit]
      decide
    refine iff_of_false hmap ?_
    rintro ⟨t, ht, -⟩
    rw [hnone] at ht
    cases ht

theorem Operation.ReadFrom.body_eq_map_iff {path : Text} {op : Operation} (h : op.ReadFrom path o) :
    (∃ b, op.body = some b ∧ b.type = "map") ↔
      ∃ body, o.get? "body" = some (.object body) ∧ Draft.IsBareMap body := by
  rcases h.body with ⟨hnone, hnull⟩ | ⟨inner, b, hinner, hb, hread⟩
  · refine iff_of_false ?_ ?_
    · rintro ⟨b, hb, -⟩
      rw [hnone] at hb
      cases hb
    · rintro ⟨body, hbody, -⟩
      rcases hnull with hnull | hnull <;> simp [hnull] at hbody
  · rw [hinner, hb]
    simp only [Option.some.injEq, Json.Value.object.injEq, exists_eq_left']
    exact eq_map_iff_of_hasType hread.type

/-! ### Services -/

/-- The objects of a document that are read as operations. -/
theorem operation_mem_iff : o ∈ Draft.operationObjects document ↔
    ∃ entry ∈ membersAt document "resources", o ∈ entriesAt entry.2 "operations" := by
  simp only [Draft.operationObjects, List.mem_flatMap, namedObjectsOf_eq, objectsOf_eq]

/-- A statement about some operation of a service, as one about some object that is read as one. -/
theorem exists_operation_iff (hs : s.ReadFrom document) {p : Json.Members → Prop}
    {q : Operation → Prop} (hpq : ∀ path o op, Operation.ReadFrom path o op → (q op ↔ p o)) :
    (∃ r ∈ s.resources, ∃ op ∈ r.operations, q op) ↔
      ∃ o ∈ Draft.operationObjects document, p o := by
  rw [exists_mem_iff_of_forall₂ hs.resources fun entry r hr =>
    exists_mem_iff_of_forall₂ hr.operations (hpq r.path)]
  simp only [operation_mem_iff]
  constructor
  · rintro ⟨entry, hentry, o, ho, hp⟩
    exact ⟨o, ⟨entry, hentry, ho⟩, hp⟩
  · rintro ⟨o, ⟨entry, hentry, ho⟩, hp⟩
    exact ⟨entry, hentry, o, ho, hp⟩

/-- Where a service that is read from the document has the type `map`. -/
structure BareMaps (document : Json.Members) (s : Service) : Prop where
  fields : ¬ ∃ m ∈ s.models, ∃ f ∈ m.fields, f.type = "map"
  parameters : ¬ ∃ r ∈ s.resources, ∃ op ∈ r.operations, ∃ p ∈ op.parameters, p.type = "map"
  responses : ¬ ∃ r ∈ s.resources, ∃ op ∈ r.operations, ∃ response ∈ op.responses,
    response.type = "map"
  headers : (∃ header ∈ s.headers, header.type = "map") ↔
    ∃ header ∈ entriesAt document "headers", Draft.IsBareMap header
  unionMembers : (∃ u ∈ s.unions, ∃ m ∈ u.members, m.type = "map") ↔
    ∃ entry ∈ membersAt document "unions", ∃ m ∈ entriesAt entry.2 "types", Draft.IsBareMap m
  bodies : (∃ r ∈ s.resources, ∃ op ∈ r.operations, ∃ b, op.body = some b ∧ b.type = "map") ↔
    ∃ o ∈ Draft.operationObjects document, ∃ body, o.get? "body" = some (.object body) ∧
      Draft.IsBareMap body

theorem bareMaps_of_conforms (hs : s.ReadFrom document) (h : Draft.Conforms document) :
    BareMaps document s where
  fields := by
    rw [exists_mem_iff_of_forall₂ hs.models fun entry m hm =>
      exists_mem_iff_of_forall₂ hm.fields fun o f hf => eq_map_iff_of_hasType hf.type]
    rintro ⟨entry, hentry, o, ho, hbare⟩
    rw [← namedObjectsOf_eq] at hentry
    rw [← objectsOf_eq] at ho
    exact (h.fields o (List.mem_flatMap.2 ⟨entry, hentry, ho⟩)).2 hbare
  parameters := by
    rw [exists_operation_iff hs fun path o op hop =>
      exists_mem_iff_of_forall₂ hop.parameters fun o p hp => eq_map_iff_of_hasType hp.type]
    rintro ⟨o, ho, p, hp, hbare⟩
    rw [← objectsOf_eq] at hp
    exact ((h.operations o ho).parameters p hp).2 hbare
  responses := by
    rw [exists_operation_iff hs fun path o op hop =>
      exists_mem_iff_of_forall₂ hop.responses fun entry r hr => hr.eq_map_iff]
    rintro ⟨o, ho, entry, hentry, hbare⟩
    have hresponses := (h.operations o ho).responses
    rw [responseMembers_eq_map fun member hmem => (hresponses member hmem).imp fun _ h => h.1,
      List.forall_mem_map] at hresponses
    obtain ⟨response, heq, -, hnot⟩ := hresponses entry hentry
    obtain rfl := Json.Value.object.inj heq
    exact hnot hbare
  headers := exists_mem_iff_of_forall₂ hs.headers fun o h hh => eq_map_iff_of_hasType hh.type
  unionMembers := exists_mem_iff_of_forall₂ hs.unions fun entry u hu =>
    exists_mem_iff_of_forall₂ hu.members fun o m hm => eq_map_iff_of_hasType hm.type
  bodies := exists_operation_iff hs fun path o op hop => hop.body_eq_map_iff

end Service

/-- In the service of an accepted document, no field, parameter or response has the bare word `map`
as its type.  Some header, member of a union or body has it exactly when the object of one in the
document does. -/
theorem accepted_bareMaps {c : Configuration} {fetch : Fetch} {text : Text} {s : Service}
    (h : (validate c fetch text).outcome = .ok (.accepted s)) :
    ∃ members, readDocument text = .ok members ∧ s.BareMaps members := by
  obtain ⟨members, d, hm, hd, -, hrules, hb, -⟩ := validate_eq_accepted_iff.1 h
  have hconforms := (Draft.unwarned_iff_conforms hd).1 hrules.unwarned
  have hread := Service.readFrom_of_build hd hb hconforms
  exact ⟨members, hm, Service.bareMaps_of_conforms hread hconforms⟩

/-- A document with the bare word `map` as the type of a header, of a member of a union, and of a
body. -/
def legendDocument : Text := Text.ofLines [
  "\x7b\"name\": \"Legend\",",
  "\"headers\": [\x7b\"name\": \"X-Tags\", \"type\": \"map\"\x7d],",
  "\"unions\": \x7b\"mark\": \x7b\"types\": [\x7b\"type\": \" map \"\x7d]\x7d\x7d,",
  "\"models\": \x7b\"sign\": \x7b\"fields\": []\x7d\x7d,",
  "\"resources\": \x7b\"sign\": \x7b\"path\": \"/signs\",",
  "\"operations\": [\x7b\"method\": \"POST\", \"body\": \x7b\"type\": \"map\"\x7d,",
  "\"responses\": \x7b\"200\": \x7b\"type\": \"sign\"\x7d\x7d\x7d]\x7d\x7d\x7d"]

/-- The service that the document is accepted as. -/
def legendService : Service where
  name := "Legend"
  key := "legend"
  nameSpace := "com.example.legend.v0"
  organization := "example"
  version := "0.0.1-dev"
  description := none
  baseUrl := none
  imports := []
  headers := [⟨"X-Tags", "map", true, none, none⟩]
  enums := []
  unions := [⟨"mark", "marks", none, [⟨"map", none⟩]⟩]
  models := [⟨"sign", "signs", none, []⟩]
  resources := [⟨"sign", "signs", "/signs", none,
    [⟨.post, "/signs", none, some ⟨"map", none⟩, [], [⟨200, "sign", none⟩]⟩]⟩]

theorem validate_legendDocument :
    (validate {} unreachable legendDocument).outcome = .ok (.accepted legendService) := by
  decide +kernel

theorem legendService_bareMaps :
    (validate {} unreachable legendDocument).outcome = .ok (.accepted legendService) ∧
      ∃ members, readDocument legendDocument = .ok members ∧ legendService.BareMaps members :=
  ⟨validate_legendDocument, accepted_bareMaps validate_legendDocument⟩

/-- The bare word `map` can be the type of a header, of a member of a union and of a body of an
accepted service. -/
theorem exists_bareMap_accepted :
    (validate {} unreachable legendDocument).outcome = .ok (.accepted legendService) ∧
    (∃ header ∈ legendService.headers, header.type = "map") ∧
    (∃ u ∈ legendService.unions, ∃ m ∈ u.members, m.type = "map") ∧
    ∃ r ∈ legendService.resources, ∃ op ∈ r.operations, ∃ b, op.body = some b ∧
      b.type = "map" := by
  refine ⟨validate_legendDocument, ?_, ?_, ?_⟩
  · exact ⟨_, List.mem_singleton_self _, rfl⟩
  · exact ⟨_, List.mem_singleton_self _, _, List.mem_singleton_self _, rfl⟩
  · exact ⟨_, List.mem_singleton_self _, _, List.mem_singleton_self _, _, rfl, rfl⟩

end ServiceContract
