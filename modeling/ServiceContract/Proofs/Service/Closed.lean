import ServiceContract.Proofs.Draft.Label
import ServiceContract.Proofs.Service.Check
import ServiceContract.Proofs.Validation.Clean

/-!
# Accepted services are closed

A service is closed when every label in it resolves against the names that the service itself
declares and every resource is about one of these names.  The types of fields, parameters, bodies
and responses are looked at by the rules, on the labels of the draft; those of headers and union
members only by the checks of the whole service, on their texts.  The two readings agree, since
every label of a draft is spelled by its text.
-/

namespace ServiceContract

open Outcome

variable {c : Configuration} {fetch : Fetch} {d : Draft} {s : Service}

namespace Service

/-- The label resolves against the names that the service declares. -/
def Resolves (s : Service) (label : Text) : Prop :=
  ∃ type, s.declarations.resolveText? label = some type

/-- All labels of an operation resolve. -/
structure Operation.Closed (s : Service) (op : Operation) : Prop where
  body : ∀ b, op.body = some b → s.Resolves b.type
  parameters : ∀ p ∈ op.parameters, s.Resolves p.type
  responses : ∀ r ∈ op.responses, s.Resolves r.type

/-- All labels of a service resolve, and all its resources are about declared types. -/
structure Closed (s : Service) : Prop where
  headers : ∀ h ∈ s.headers, s.Resolves h.type
  unionMembers : ∀ u ∈ s.unions, ∀ m ∈ u.members, s.Resolves m.type
  fields : ∀ m ∈ s.models, ∀ f ∈ m.fields, s.Resolves f.type
  operations : ∀ r ∈ s.resources, ∀ op ∈ r.operations, op.Closed s
  resources : ∀ r ∈ s.resources, r.type ∈ s.declarations.names

/-- A label that resolves in a draft resolves, as a text, in the service built from it. -/
theorem resolveText?_of_build (h : build c d = .ok s) {label : Label} (hl : label.IsSpelled) :
    s.declarations.resolveText? label.text = d.declarations.resolve? label := by
  rw [build_declarations h, Declarations.resolveText?_of_isSpelled _ hl]

theorem resolves_of_hasType (h : build c d = .ok s) {type : Option Label} {label : Label}
    (ht : Rule.HasType d.declarations type) (hl : type = some label) (hs : label.IsSpelled) :
    s.Resolves label.text := by
  obtain ⟨label', hl', hr⟩ := ht
  obtain rfl : label' = label := Option.some.inj (hl'.symm.trans hl)
  rw [Resolves, resolveText?_of_build h hs]
  exact Option.isSome_iff_exists.1 hr

/-- The rules look at every label of an operation. -/
theorem operation_closed (hrules : FollowsRules fetch d) (hspelled : d.Spelled)
    (h : build c d = .ok s) {r : Draft.Resource} (hr : r ∈ d.resources) {op : Draft.Operation}
    (hop : op ∈ r.operations) {op' : Operation} (hb : buildOperation op = .ok op') :
    op'.Closed s := by
  have spelled := hspelled.operations r hr op hop
  obtain ⟨text, method, body, parameters, responses, -, -, hbody, hparams, hresps, rfl⟩ :=
    buildOperation_eq_ok_iff.1 hb
  refine ⟨fun b hbb => ?_, fun p hp => ?_, fun x hx => ?_⟩
  · obtain ⟨-, hnone⟩ | ⟨a, b', ha, rfl, hab⟩ := option_mapM_eq_ok_iff.1 hbody
    · simp [hnone] at hbb
    · obtain rfl : b' = b := Option.some.inj hbb
      obtain ⟨label, hl, rfl⟩ := buildBody_eq_ok_iff.1 hab
      have ht := Rule.parameterBodies_eq_nil_iff.1 hrules.parameterBodies r hr op hop a ha
      exact resolves_of_hasType h ht hl (spelled.body a label ha hl)
  · obtain ⟨p₀, hp₀, hpb⟩ := exists_of_mem_mapM hparams hp
    obtain ⟨name, label, -, hl, rfl⟩ := buildParameter_eq_ok_iff.1 hpb
    obtain ⟨-, label', type, hl', hres, -⟩ :=
      Rule.parameters_eq_nil_iff.1 hrules.parameters r hr op hop p₀ hp₀
    have ht : Rule.HasType d.declarations p₀.type := ⟨label', hl', by simp [hres]⟩
    exact resolves_of_hasType h ht hl (spelled.parameters p₀ hp₀ label hl)
  · obtain ⟨x₀, hx₀, hxb⟩ := exists_of_mem_mapM hresps hx
    obtain ⟨code, label, -, hl, rfl⟩ := buildResponse_eq_ok_iff.1 hxb
    have ht := (((Rule.responses_eq_ok_nil_iff.1 hrules.responses).1 r hr op hop).2 x₀ hx₀).2.1
    exact resolves_of_hasType h ht hl (spelled.responses x₀ hx₀ label hl)

theorem field_resolves (hrules : FollowsRules fetch d) (hspelled : d.Spelled)
    (h : build c d = .ok s) {m : Model} (hm : m ∈ s.models) {f : Field} (hf : f ∈ m.fields) :
    s.Resolves f.type := by
  obtain ⟨m₀, hm₀, f₀, hf₀, hb⟩ := exists_field_of_build h hm hf
  obtain ⟨name, label, -, hl, rfl⟩ := buildField_eq_ok_iff.1 hb
  have ht := (Rule.fields_eq_nil_iff.1 hrules.fields m₀ hm₀ f₀ hf₀).2.1
  exact resolves_of_hasType h ht hl (hspelled.fields m₀ hm₀ f₀ hf₀ label hl)

end Service

/-- Every service that a document is accepted as is closed under its own declarations. -/
theorem validate_accepted_closed {text : Text}
    (h : (validate c fetch text).outcome = .ok (.accepted s)) : s.Closed := by
  obtain ⟨members, d, -, hd, -, hrules, hb, herrors⟩ := validate_eq_accepted_iff.1 h
  have hspelled := Draft.ofJson_spelled hd
  obtain ⟨-, -, -, hunions, hheaders, hresources⟩ := Service.errors_eq_nil_iff.1 herrors
  exact {
    headers := fun x hx =>
      Option.isSome_iff_exists.1 ((Service.headerErrors_eq_nil_iff.1 hheaders).1 x hx)
    unionMembers := fun u hu m hm =>
      Option.isSome_iff_exists.1 ((Service.unionErrors_eq_nil_iff.1 (hunions u hu)).2 m hm)
    fields := fun m hm f hf => Service.field_resolves hrules hspelled hb hm hf
    operations := by
      intro r hr op hop
      obtain ⟨r₀, hr₀, op₀, hop₀, hbuild⟩ := Service.exists_operation_of_build hb hr hop
      exact Service.operation_closed hrules hspelled hb hr₀ hop₀ hbuild
    resources := fun r hr => (Service.resourceErrors_eq_nil_iff.1 (hresources r hr)).1 }

theorem petsService_closed :
    (validate {} unreachable petsDocument).outcome = .ok (.accepted petsService) ∧
      petsService.Closed :=
  ⟨validate_petsDocument, validate_accepted_closed validate_petsDocument⟩

end ServiceContract
