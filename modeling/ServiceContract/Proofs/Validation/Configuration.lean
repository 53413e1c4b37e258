import ServiceContract.Proofs.Service.Key

/-!
# What a configuration decides

A configuration is looked at in one place, where the service is built: it names the organization
and the version, and it makes the namespace if the document gives none.  Neither the rules nor the
checks of the whole service read any of the three.  So two validations of a document under two
configurations ask for the same addresses and end in the same way, and their services differ in
nothing else (`validate_under_configurations`).
-/

namespace ServiceContract

open Outcome

variable {c c' : Configuration} {fetch : Fetch} {d : Draft} {s : Service}

/-! ### Another configuration -/

namespace Service

/-- The service as another configuration makes it, given the namespace in the document. -/
def configured (c : Configuration) (nameSpace : Option Text) (s : Service) : Service :=
  { s with
    nameSpace := nameSpace.getD (c.applicationNamespace s.key)
    organization := c.orgKey
    version := c.version }

@[simp] theorem errors_configured (nameSpace : Option Text) :
    (s.configured c nameSpace).errors = s.errors := rfl

/-- The parts of a service are built without a look at the configuration. -/
theorem build_configured (c c' : Configuration) (d : Draft) :
    build c' d = (build c d).map (configured c' (given? d.nameSpace)) := by
  simp only [build, map_of_bind]
  rfl

end Service

/-- The verdict under another configuration. -/
def Verdict.configured (c : Configuration) (nameSpace : Option Text) : Verdict → Verdict
  | .rejected errors => .rejected errors
  | .accepted s => .accepted (s.configured c nameSpace)

theorem buildAndCheck_configured (c c' : Configuration) (d : Draft) :
    buildAndCheck c' d =
      (buildAndCheck c d).map (Verdict.configured c' (Service.given? d.nameSpace)) := by
  unfold buildAndCheck
  rw [Service.build_configured c c', mapError_map]
  cases hb : (Service.build c d).mapError Fault.build with
  | error fault => rfl
  | ok s =>
    change Except.ok _ = Except.ok _
    rw [Service.errors_configured]
    split <;> rfl

theorem inquireDraft_configured (c c' : Configuration) (d : Draft) :
    inquireDraft c' d = (inquireDraft c d).mapOutcome
      (·.map (Verdict.configured c' (Service.given? d.nameSpace))) := by
  unfold inquireDraft
  cases d.name with
  | none => rfl
  | some name =>
    dsimp only
    rw [Inquiry.mapOutcome_map_bind]
    refine congrArg (Inquiry.bind _) (funext fun errors => ?_)
    split
    · rw [Inquiry.mapOutcome_map_bind, buildAndCheck_configured c c']
      cases buildAndCheck c d with
      | error fault => rfl
      | ok verdict => cases verdict <;> rfl
    · rfl

/-- Reading a document does not involve the configuration. -/
theorem inquire_configured (c c' : Configuration) {text : Text} {members : Json.Members}
    (hm : readDocument text = .ok members) : inquire c' text = (inquire c text).mapOutcome
      (·.map (Verdict.configured c' (Service.given? (Draft.textOf members "namespace")))) := by
  unfold inquire
  rw [hm]
  dsimp only
  cases hd : Draft.ofJson members with
  | error fault => rfl
  | ok d =>
    obtain ⟨_, -, _, -, rfl⟩ := Draft.ofJson_eq_ok_iff.1 hd
    exact inquireDraft_configured c c' _

theorem validate_configured (c c' : Configuration) (fetch : Fetch) {text : Text}
    {members : Json.Members} (hm : readDocument text = .ok members) :
    (validate c' fetch text).asked = (validate c fetch text).asked ∧
    (validate c' fetch text).outcome = (validate c fetch text).outcome.map
      (Verdict.configured c' (Service.given? (Draft.textOf members "namespace"))) := by
  unfold validate
  rw [inquire_configured c c' hm, Inquiry.run_mapOutcome]
  exact ⟨rfl, rfl⟩

/-! ### Two validations of a document -/

/-- Validated under its own configuration again, an accepted document yields the same service. -/
theorem configured_of_accepted {text : Text} {members : Json.Members}
    (hm : readDocument text = .ok members)
    (h : (validate c fetch text).outcome = .ok (.accepted s)) :
    s.configured c (Service.given? (Draft.textOf members "namespace")) = s := by
  have hself := (validate_configured c c fetch hm).2
  rw [h] at hself
  exact (Verdict.accepted.inj (Except.ok.inj hself)).symm

/-- Under two configurations the validations of a text ask for the same addresses in the same
order; they stop with the same fault, end with the same messages, or both accept.  The two services
then agree in all but the organization, the version and, where the document gives none, the
namespace. -/
theorem validate_under_configurations (c c' : Configuration) (fetch : Fetch) (text : Text) :
    (validate c fetch text).asked = (validate c' fetch text).asked ∧
    (∀ fault, (validate c fetch text).outcome = .error fault ↔
      (validate c' fetch text).outcome = .error fault) ∧
    (∀ errors, (validate c fetch text).outcome = .ok (.rejected errors) ↔
      (validate c' fetch text).outcome = .ok (.rejected errors)) ∧
    ∀ s, (validate c fetch text).outcome = .ok (.accepted s) →
      ∃ members nameSpace, readDocument text = .ok members ∧
        (validate c' fetch text).outcome = .ok (.accepted
          { s with
            nameSpace := nameSpace
            organization := c'.orgKey
            version := c'.version }) ∧
        (members.Gives "namespace" → nameSpace = s.nameSpace) ∧
        (¬ members.Gives "namespace" → nameSpace = c'.applicationNamespace s.key) := by
  cases hm : readDocument text with
  | error fault => simp [validate, inquire, hm, Inquiry.run]
  | ok members =>
    obtain ⟨hasked, houtcome⟩ := validate_configured c c' fetch hm
    rw [houtcome]
    refine ⟨hasked.symm, fun fault => ?_, fun errors => ?_, fun s hs => ?_⟩
    · cases (validate c fetch text).outcome <;> simp [Except.map]
    · cases (validate c fetch text).outcome with
      | error fault => simp [Except.map]
      | ok verdict => cases verdict <;> simp [Except.map, Verdict.configured]
    · rw [hs]
      refine ⟨members, _, rfl, rfl, fun hgiven => ?_, fun hnone => ?_⟩
      · obtain ⟨t, ht⟩ := Option.isSome_iff_exists.1 (Service.isSome_given?_textOf_iff.2 hgiven)
        have hname := congrArg Service.nameSpace (configured_of_accepted hm hs)
        simp only [Service.configured, ht, Option.getD_some] at hname ⊢
        exact hname
      · rw [← Service.isSome_given?_textOf_iff, Option.not_isSome_iff_eq_none] at hnone
        rw [hnone]
        rfl

/-- A configuration of another organization. -/
def acmeConfiguration : Configuration where
  orgKey := "acme"
  orgNamespace := "org.acme"
  version := "2.1"

theorem petsService_under_acmeConfiguration :
    (validate {} unreachable petsDocument).outcome = .ok (.accepted petsService) ∧
    (validate acmeConfiguration unreachable petsDocument).outcome = .ok (.accepted
      { petsService with
        nameSpace := "org.acme.pets.v2"
        organization := "acme"
        version := "2.1" }) := by
  obtain ⟨-, -, -, haccepted⟩ :=
    validate_under_configurations {} acmeConfiguration unreachable petsDocument
  obtain ⟨members, nameSpace, hm, hs, -, hnone⟩ := haccepted petsService validate_petsDocument
  have hread : (readDocument petsDocument).map (fun m => (m.get? "namespace").isNone) =
      .ok true := by decide +kernel
  rw [hm] at hread
  have hgiven : ¬ members.Gives "namespace" := by
    rintro ⟨t, ht, -⟩
    have habsent : (members.get? "namespace").isNone = true := Except.ok.inj hread
    rw [ht] at habsent
    cases habsent
  obtain rfl := hnone hgiven
  exact ⟨validate_petsDocument, hs⟩

end ServiceContract
