import ServiceContract.Proofs.Draft.Conformance
import ServiceContract.Proofs.Validation.Clean

/-!
# Accepted documents conform to the tables

Three rules report warnings: that for fields, which leaves out the fields without a name, that for
operations and that for responses.  A draft on which all rules are silent has no unnamed fields and
so no warnings, and its document conforms to the tables.  In turn the rules have no warning to
report about the draft of a document that conforms.
-/

namespace ServiceContract

variable {fetch : Fetch} {d : Draft}

namespace Rule

/-- What the rule for fields says apart from warnings. -/
def fieldFaults (d : Draft) : List Text :=
  aboutNamedFields d (fieldType d.declarations) ++
    d.models.flatMap fun m => (m.fields.filter (·.name.isNone)).map fun _ => unnamedField m

/-- What the rule for responses says apart from warnings. -/
def responseFaults (d : Draft) : Except Number.IntegerFault (List Text) := do
  let unreadable ← unreadableCodes d
  return ((operationsOf d).flatMap fun (r, op) => operationMethod r op) ++
    unreadable ++
    ((responsesOf d).flatMap fun (r, op, response) => responseType d.declarations r op response) ++
    (if unreadable.isEmpty then codeErrors d else [])

theorem operations_of_unwarned (h : d.Unwarned) : operations d = [] :=
  operations_eq_nil_iff.2 fun r hr op hop => (h.operations r hr op hop).1

theorem fields_of_unwarned (h : d.Unwarned) : fields d = fieldFaults d := by
  have hwarnings : aboutNamedFields d fieldWarnings = [] := by
    rw [aboutNamedFields_eq_nil_iff]
    intro m hm f hf name _
    simp [fieldWarnings, h.fields m hm f hf]
  rw [fields, hwarnings, List.append_nil, fieldFaults]

theorem responses_of_unwarned (h : d.Unwarned) : responses d = responseFaults d := by
  have hwarnings : ((responsesOf d).flatMap fun (r, op, response) =>
      responseWarnings r op response) = [] := by
    rw [List.flatMap_eq_nil_iff, forall_mem_responsesOf]
    intro r hr op hop response hres
    exact responseWarnings_eq_nil_iff.2 ((h.operations r hr op hop).2 response hres)
  simp only [responses, hwarnings, List.append_nil, responseFaults]

end Rule

/-- The rules let no warning pass. -/
theorem FollowsRules.unwarned (h : FollowsRules fetch d) : d.Unwarned where
  fields := fun m hm f hf => (Rule.fields_eq_nil_iff.1 h.fields m hm f hf).2.2
  operations := by
    intro r hr op hop
    refine ⟨Rule.operations_eq_nil_iff.1 h.operations r hr op hop, fun response hres => ?_⟩
    exact (((Rule.responses_eq_ok_nil_iff.1 h.responses).1 r hr op hop).2 response hres).2.2

/-- An accepted document conforms to the tables.  In turn, of the draft of any object that conforms
the rule for operations says nothing at all, and the rules for fields and for responses report no
warning. -/
theorem validate_accepted_conforms (c : Configuration) (fetch : Fetch) (text : Text) :
    (∀ s, (validate c fetch text).outcome = .ok (.accepted s) →
      ∃ members, readDocument text = .ok members ∧ Draft.Conforms members) ∧
    ∀ members d, Draft.ofJson members = .ok d → Draft.Conforms members →
      Rule.operations d = [] ∧ Rule.fields d = Rule.fieldFaults d ∧
        Rule.responses d = Rule.responseFaults d := by
  constructor
  · intro s h
    obtain ⟨members, d, hm, hd, -, hrules, -⟩ := validate_eq_accepted_iff.1 h
    exact ⟨members, hm, (Draft.unwarned_iff_conforms hd).1 hrules.unwarned⟩
  · intro members d hd hconforms
    have hunwarned := (Draft.unwarned_iff_conforms hd).2 hconforms
    exact ⟨Rule.operations_of_unwarned hunwarned, Rule.fields_of_unwarned hunwarned,
      Rule.responses_of_unwarned hunwarned⟩

theorem petsDocument_conforms :
    (validate {} unreachable petsDocument).outcome = .ok (.accepted petsService) ∧
    ∃ members, readDocument petsDocument = .ok members ∧ Draft.Conforms members ∧
      ∃ d, Draft.ofJson members = .ok d ∧ Rule.operations d = [] ∧
        Rule.fields d = Rule.fieldFaults d ∧ Rule.responses d = Rule.responseFaults d := by
  refine ⟨validate_petsDocument, ?_⟩
  obtain ⟨accepted, conforming⟩ := validate_accepted_conforms {} unreachable petsDocument
  obtain ⟨members, hm, hconforms⟩ := accepted petsService validate_petsDocument
  obtain ⟨members', d, hm', hd, -⟩ := validate_eq_accepted_iff.1 validate_petsDocument
  obtain rfl : members = members' := Except.ok.inj (hm.symm.trans hm')
  exact ⟨members, hm, hconforms, d, hd, conforming members d hd hconforms⟩

end ServiceContract
