import ServiceContract.Proofs.Service.Closed

/-!
# Query parameters of accepted services

A parameter stands in the query when its operation has a body or the method `GET` and no
placeholder has its name.  The rule for parameters decides by the draft which operations take their
parameters from the query, and for these it asks of all parameters, also of those in the path, to
be simple: a primitive, an enum, or a list of one of these.  A parameter that the service places in
the query belongs to such an operation (`usesQuery_of_locationOf`).
-/

namespace ServiceContract

open Outcome

variable {c : Configuration} {fetch : Fetch} {d : Draft} {s : Service}

/-- A primitive or an enum, or a list of one of these; so neither a map nor anything with a model
or a union in it. -/
def Datatype.IsSimple (type : Datatype) : Prop :=
  ∃ ref, (type = .scalar ref ∨ type = .listOf ref) ∧
    (ref.kind = .primitive ∨ ref.kind = .enumeration)

namespace Rule

theorem isSimple_of_queryTypeError? {type : Datatype} {label : Label}
    (h : queryTypeError? type label = none) : type.IsSimple := by
  have simple : ∀ ref : TypeRef, ¬ (ref.kind = .model ∨ ref.kind = .union) →
      ref.kind = .primitive ∨ ref.kind = .enumeration := by
    intro ref href
    cases hk : ref.kind <;> simp_all
  cases type with
  | scalar ref =>
    have href : ¬ (ref.kind = .model ∨ ref.kind = .union) := by
      simpa [queryTypeError?, Datatype.ref] using h
    exact ⟨ref, Or.inl rfl, simple ref href⟩
  | listOf ref =>
    have href : ¬ (ref.kind = .model ∨ ref.kind = .union) := by
      simpa [queryTypeError?, Datatype.ref] using h
    exact ⟨ref, Or.inr rfl, simple ref href⟩
  | mapOf ref => simp [queryTypeError?] at h

/-- An operation one of whose parameters is placed in the query takes its parameters from there. -/
theorem usesQuery_of_locationOf {op : Draft.Operation} {text : Text} {p : Draft.Parameter}
    (hm : op.method = some text)
    (h : Service.locationOf op (Method.ofText? text) p = .query) : usesQuery op = true := by
  unfold Service.locationOf at h
  unfold usesQuery
  rw [hm]
  split at h
  · cases h
  · split at h
    · assumption
    · cases h

end Rule

/-- The rules keep the parameters of an operation that takes them from the query simple. -/
theorem FollowsRules.queryParameter_isSimple (h : FollowsRules fetch d) {r : Draft.Resource}
    (hr : r ∈ d.resources) {op : Draft.Operation} (hop : op ∈ r.operations)
    (hquery : Rule.usesQuery op = true) {p : Draft.Parameter} (hp : p ∈ op.parameters)
    {label : Label} (hl : p.type = some label) :
    ∃ type, d.declarations.resolve? label = some type ∧ type.IsSimple := by
  obtain ⟨-, label', type, hl', hresolved, hallowed⟩ :=
    Rule.parameters_eq_nil_iff.1 h.parameters r hr op hop p hp
  obtain rfl : label' = label := Option.some.inj (hl'.symm.trans hl)
  exact ⟨type, hresolved, Rule.isSimple_of_queryTypeError? (hallowed hquery)⟩

/-- In an accepted service the label of every query parameter resolves to a simple type. -/
theorem queryParameter_resolves_simple {text : Text}
    (h : (validate c fetch text).outcome = .ok (.accepted s)) {r : Service.Resource}
    (hr : r ∈ s.resources) {op : Service.Operation} (hop : op ∈ r.operations)
    {p : Service.Parameter} (hp : p ∈ op.parameters) (hquery : p.location = .query) :
    ∃ type, s.declarations.resolveText? p.type = some type ∧ type.IsSimple := by
  obtain ⟨members, d, -, hd, -, hrules, hb, -⟩ := validate_eq_accepted_iff.1 h
  obtain ⟨r₀, hr₀, op₀, hop₀, hbuild⟩ := Service.exists_operation_of_build hb hr hop
  obtain ⟨text, method, body, parameters, responses, hm, hmethod, -, hparams, -, rfl⟩ :=
    Service.buildOperation_eq_ok_iff.1 hbuild
  obtain ⟨p₀, hp₀, hpb⟩ := exists_of_mem_mapM hparams hp
  obtain ⟨name, label, -, hl, rfl⟩ := Service.buildParameter_eq_ok_iff.1 hpb
  -- the service knows the method, the rule only its text
  rw [← hmethod] at hquery
  obtain ⟨type, hresolved, hsimple⟩ := hrules.queryParameter_isSimple hr₀ hop₀
    (Rule.usesQuery_of_locationOf hm hquery) hp₀ hl
  have hspelled := ((Draft.ofJson_spelled hd).operations r₀ hr₀ op₀ hop₀).parameters p₀ hp₀ label hl
  refine ⟨type, ?_, hsimple⟩
  rw [Service.resolveText?_of_build hb hspelled]
  exact hresolved

theorem petsService_queryParameter :
    (validate {} unreachable petsDocument).outcome = .ok (.accepted petsService) ∧
    ∃ r ∈ petsService.resources, ∃ op ∈ r.operations, ∃ p ∈ op.parameters, p.location = .query ∧
      p.type = "[long]" ∧
      ∃ type, petsService.declarations.resolveText? p.type = some type ∧ type.IsSimple := by
  refine ⟨validate_petsDocument, _, List.mem_cons_self, _, List.mem_cons_self, _,
    List.mem_cons_of_mem _ List.mem_cons_self, rfl, rfl, ?_⟩
  exact queryParameter_resolves_simple validate_petsDocument List.mem_cons_self List.mem_cons_self
    (List.mem_cons_of_mem _ List.mem_cons_self) rfl

end ServiceContract
