import ServiceContract.Proofs.Rule.Response
import ServiceContract.Proofs.Service.Build
import ServiceContract.Validation

/-!
# Drafts that follow the rules

`FollowsRules` says that no rule has anything to say about a draft and that none of them stops.
The rules ask for all that a service is built from: a named draft that follows them is complete
(`FollowsRules.complete`), so that building its service cannot fail.  With this, a document is
accepted exactly when its draft has a name and follows the rules and its service has no errors as
a whole (`validate_eq_accepted_iff`).
-/

namespace ServiceContract

open Outcome

variable {c : Configuration} {fetch : Fetch} {d : Draft} {s : Service}

/-- None of the twelve rules has a message about the draft, and none of them stops. -/
structure FollowsRules (fetch : Fetch) (d : Draft) : Prop where
  key : Rule.key d = []
  imports : ((Rule.imports d).run fetch).outcome = .ok []
  enums : Rule.enums d = []
  unions : Rule.unions d = []
  headers : Rule.headers d = []
  fields : Rule.fields d = []
  operations : Rule.operations d = []
  parameterBodies : Rule.parameterBodies d = []
  parameters : Rule.parameters d = []
  responses : Rule.responses d = .ok []
  pathParameters : Rule.pathParameters d = []
  pathParametersRequired : Rule.pathParametersRequired d = []

theorem ruleErrors_eq_ok_nil_iff :
    ruleErrors d ((Rule.imports d).run fetch).outcome = .ok [] ↔ FollowsRules fetch d := by
  simp only [ruleErrors, elementErrors, bind_eq_ok_iff, pure_eq_ok_iff, mapError_eq_ok_iff,
    List.nil_eq, List.append_eq_nil_iff]
  constructor
  · rintro ⟨_, himports, _, hresponses,
      ⟨⟨⟨⟨hkey, rfl⟩, ⟨⟨⟨⟨⟨henums, hunions⟩, hheaders⟩, hfields⟩, hoperations⟩, hbodies⟩,
        hparameters⟩, rfl⟩, hpath⟩, hrequired⟩
    exact ⟨hkey, himports, henums, hunions, hheaders, hfields, hoperations, hbodies, hparameters,
      hresponses, hpath, hrequired⟩
  · intro h
    exact ⟨[], h.imports, [], h.responses,
      ⟨⟨⟨⟨h.key, rfl⟩, ⟨⟨⟨⟨⟨h.enums, h.unions⟩, h.headers⟩, h.fields⟩, h.operations⟩,
        h.parameterBodies⟩, h.parameters⟩, rfl⟩, h.pathParameters⟩, h.pathParametersRequired⟩

/-! ### What the rules ask for is what a service needs -/

theorem FollowsRules.operation_complete (h : FollowsRules fetch d) {r : Draft.Resource}
    (hr : r ∈ d.resources) {op : Draft.Operation} (hop : op ∈ r.operations) : op.Complete where
  method := ((Rule.responses_eq_ok_nil_iff.1 h.responses).1 r hr op hop).1
  body := by
    intro b hb
    obtain ⟨label, hl, -⟩ := Rule.parameterBodies_eq_nil_iff.1 h.parameterBodies r hr op hop b hb
    simp [hl]
  parameters := by
    intro p hp
    obtain ⟨hn, label, type, hl, -⟩ :=
      Rule.parameters_eq_nil_iff.1 h.parameters r hr op hop p hp
    exact ⟨hn, by simp [hl]⟩
  responses := by
    intro response hres
    obtain ⟨⟨n, hn⟩, ⟨label, hl, -⟩, -⟩ :=
      ((Rule.responses_eq_ok_nil_iff.1 h.responses).1 r hr op hop).2 response hres
    -- The rule reads fewer texts as codes than the build does.
    exact ⟨by simp [hl], n, (Rule.readCode_eq_ok_some_iff.1 hn).2⟩

/-- A named draft that follows the rules has all that a service needs. -/
theorem FollowsRules.complete (h : FollowsRules fetch d) (hn : d.name.isSome) : d.Complete where
  name := hn
  imports := by
    intro i hi
    obtain ⟨uri, hu, -⟩ := Rule.imports_eq_ok_nil_iff.1 h.imports i hi
    simp [hu]
  headers := Rule.headers_eq_nil_iff.1 h.headers
  enumValues := Rule.enums_eq_nil_iff.1 h.enums
  unionMembers := Rule.unions_eq_nil_iff.1 h.unions
  fields := by
    intro m hm f hf
    obtain ⟨hn, ⟨label, hl, -⟩, -⟩ := Rule.fields_eq_nil_iff.1 h.fields m hm f hf
    exact ⟨hn, by simp [hl]⟩
  operations := fun _ hr _ hop => h.operation_complete hr hop

/-! ### Validation -/

/-- A draft without a name is rejected for that alone. -/
theorem outcome_validateDraft_of_isNone (h : d.name = none) :
    (validateDraft c fetch d).outcome = .ok (.rejected ["Missing: name"]) := by
  rw [validateDraft, inquireDraft, h, Rule.requiredFields, h]
  rfl

theorem outcome_validateDraft_of_isSome (h : d.name.isSome) :
    (validateDraft c fetch d).outcome =
      (ruleErrors d ((Rule.imports d).run fetch).outcome >>= fun errors =>
        if errors.isEmpty then buildAndCheck c d else pure (.rejected errors)) := by
  obtain ⟨name, hn⟩ := Option.isSome_iff_exists.1 h
  rw [validateDraft, inquireDraft, hn]
  dsimp only
  rw [Inquiry.outcome_run_bind, Inquiry.outcome_run_mapOutcome]
  refine bind_congr fun errors => ?_
  split_ifs
  · rw [Inquiry.outcome_run_bind]
    cases buildAndCheck c d <;> rfl
  · rfl

/-- The service of a named draft that follows the rules is built, and only the checks of the
whole service can still find a fault. -/
theorem validateDraft_of_followsRules (h : FollowsRules fetch d) (hn : d.name.isSome) :
    ∃ s, Service.build c d = .ok s ∧ (validateDraft c fetch d).outcome =
      .ok (if s.errors.isEmpty then .accepted s else .rejected s.errors) := by
  obtain ⟨s, hs⟩ := isOk_iff.1 ((Service.build_isOk_iff (c := c)).2 (h.complete hn))
  refine ⟨s, hs, ?_⟩
  rw [outcome_validateDraft_of_isSome hn, ruleErrors_eq_ok_nil_iff.2 h]
  change buildAndCheck c d = _
  rw [buildAndCheck, hs]
  rfl

theorem buildAndCheck_eq_accepted_iff :
    buildAndCheck c d = .ok (.accepted s) ↔ Service.build c d = .ok s ∧ s.errors = [] := by
  simp only [buildAndCheck, bind_eq_ok_iff, mapError_eq_ok_iff, pure_eq_ok_iff]
  constructor
  · rintro ⟨s', hs, h⟩
    by_cases he : s'.errors = [] <;> simp [he] at h
    subst h
    exact ⟨hs, he⟩
  · rintro ⟨hs, he⟩
    exact ⟨s, hs, by simp [he]⟩

theorem validateDraft_eq_accepted_iff :
    (validateDraft c fetch d).outcome = .ok (.accepted s) ↔
      d.name.isSome ∧ FollowsRules fetch d ∧ Service.build c d = .ok s ∧ s.errors = [] := by
  rw [← ruleErrors_eq_ok_nil_iff]
  cases hn : d.name with
  | none => simp [outcome_validateDraft_of_isNone hn]
  | some name =>
    rw [outcome_validateDraft_of_isSome (by simp [hn]), bind_eq_ok_iff]
    constructor
    · rintro ⟨errors, he, h⟩
      by_cases hnil : errors = []
      · subst hnil
        exact ⟨rfl, he, buildAndCheck_eq_accepted_iff.1 h⟩
      · simp [hnil, pure, Except.pure] at h
    · rintro ⟨-, he, h⟩
      exact ⟨[], he, buildAndCheck_eq_accepted_iff.2 h⟩

/-- The rules can stop at an import or at a code. -/
theorem ruleErrors_isOk_iff :
    (ruleErrors d ((Rule.imports d).run fetch).outcome).isOk = true ↔
      ((Rule.imports d).run fetch).outcome.isOk = true ∧ (Rule.responses d).isOk = true := by
  simp only [ruleErrors, isOk_bind_iff, isOk_pure, and_true, exists_and_right, ← isOk_iff,
    isOk_mapError]

theorem ruleErrors_ne_build {imports : Except Import.Fault (List Text)}
    (fault : Service.BuildFault) : ruleErrors d imports ≠ .error (.build fault) := by
  unfold ruleErrors
  cases imports with
  | error fault' => simp [Except.mapError, bind, Except.bind]
  | ok messages =>
    cases Rule.responses d <;> simp [Except.mapError, bind, Except.bind, pure, Except.pure]

/-- How the validation of a named draft ends: with the fault of a rule, with the messages of the
rules, or with what the checks of the service say. -/
theorem validateDraft_cases (c : Configuration) (fetch : Fetch) (h : d.name.isSome) :
    (∃ fault, ruleErrors d ((Rule.imports d).run fetch).outcome = .error fault ∧
      (validateDraft c fetch d).outcome = .error fault) ∨
    (∃ errors, errors ≠ [] ∧ ruleErrors d ((Rule.imports d).run fetch).outcome = .ok errors ∧
      (validateDraft c fetch d).outcome = .ok (.rejected errors)) ∨
    (FollowsRules fetch d ∧ ∃ s, Service.build c d = .ok s ∧
      (validateDraft c fetch d).outcome =
        .ok (if s.errors.isEmpty then .accepted s else .rejected s.errors)) := by
  cases hr : ruleErrors d ((Rule.imports d).run fetch).outcome with
  | error fault =>
    refine Or.inl ⟨fault, rfl, ?_⟩
    rw [outcome_validateDraft_of_isSome h, hr]
    rfl
  | ok errors =>
    right
    by_cases hnil : errors = []
    · subst hnil
      have hrules := ruleErrors_eq_ok_nil_iff.1 hr
      exact Or.inr ⟨hrules, validateDraft_of_followsRules hrules h⟩
    · refine Or.inl ⟨errors, hnil, rfl, ?_⟩
      rw [outcome_validateDraft_of_isSome h, hr]
      change (if errors.isEmpty then _ else _) = _
      rw [if_neg (by simpa using hnil)]
      rfl

/-- A named draft has a verdict exactly when no rule stops. -/
theorem validateDraft_isOk_iff (h : d.name.isSome) :
    (validateDraft c fetch d).outcome.isOk = true ↔
      ((Rule.imports d).run fetch).outcome.isOk = true ∧ (Rule.responses d).isOk = true := by
  rw [← ruleErrors_isOk_iff]
  obtain ⟨fault, hr, hv⟩ | ⟨errors, -, hr, hv⟩ | ⟨hrules, s, -, hv⟩ :=
    validateDraft_cases c fetch h
  · rw [hr, hv]
    rfl
  · rw [hr, hv]
    rfl
  · rw [ruleErrors_eq_ok_nil_iff.2 hrules, hv]
    rfl

theorem outcome_validate (c : Configuration) (fetch : Fetch) (text : Text) :
    (validate c fetch text).outcome =
      match readDocument text with
      | .error fault => .ok (.rejected [fault.message])
      | .ok members =>
        match Draft.ofJson members with
        | .error fault => .error (.bound fault)
        | .ok d => (validateDraft c fetch d).outcome := by
  unfold validate inquire
  cases readDocument text with
  | error fault => rfl
  | ok members =>
    dsimp only
    cases Draft.ofJson members <;> rfl

/-- A document is accepted exactly when it is an object whose draft can be read, has a name and
follows the rules, and the service built from it has no errors. -/
theorem validate_eq_accepted_iff {text : Text} :
    (validate c fetch text).outcome = .ok (.accepted s) ↔
      ∃ members d, readDocument text = .ok members ∧ Draft.ofJson members = .ok d ∧
        d.name.isSome ∧ FollowsRules fetch d ∧ Service.build c d = .ok s ∧ s.errors = [] := by
  rw [outcome_validate]
  cases hm : readDocument text with
  | error fault => simp
  | ok members =>
    cases hd : Draft.ofJson members with
    | error fault => simp [hd]
    | ok d => simp [hd, validateDraft_eq_accepted_iff]

/-! ### A small document -/

/-- A fetcher that finds nothing. -/
def unreachable : Fetch := fun _ => .error (.unavailable "not found")

/-- A document with an element of every kind but an import. -/
def petsDocument : Text := Text.ofLines [
  "\x7b\"name\": \"Pets\",",
  "\"headers\": [\x7b\"name\": \"X-Id\",",
  "\"type\": \" uuid \"\x7d],",
  "\"enums\": \x7b\"kind\": \x7b\"values\":",
  "[\x7b\"name\": \"cat\"\x7d, \x7b\"name\": \"dog\"\x7d]\x7d\x7d,",
  "\"unions\": \x7b\"key\": \x7b\"types\":",
  "[\x7b\"type\": \"long\"\x7d, \x7b\"type\": \"kind\"\x7d]\x7d\x7d,",
  "\"models\": \x7b\"pet\": \x7b\"fields\":",
  "[\x7b\"name\": \"id\", \"type\": \"long\"\x7d,",
  "\x7b\"name\": \"tags\", \"type\": \"[ string ]\",",
  "\"required\": false\x7d]\x7d\x7d,",
  "\"resources\": \x7b\"pet\": \x7b\"operations\":",
  "[\x7b\"method\": \"get\", \"path\": \":kind\",",
  "\"parameters\": [\x7b\"name\": \"kind\",",
  "\"type\": \"kind\"\x7d, \x7b\"name\": \"ids\",",
  "\"type\": \"[long]\"\x7d], \"responses\":",
  "\x7b\"200\": \x7b\"type\": \"map[pet]\"\x7d,",
  "\"304\": \x7b\x7d\x7d\x7d,",
  "\x7b\"method\": \"POST\", \"body\":",
  "\x7b\"type\": \"[key]\"\x7d, \"responses\":",
  "\x7b\"201\": \x7b\"type\": \"pet\"\x7d\x7d\x7d]\x7d\x7d\x7d"]

/-- The service that the document describes. -/
def petsService : Service where
  name := "Pets"
  key := "pets"
  nameSpace := "com.example.pets.v0"
  organization := "example"
  version := "0.0.1-dev"
  description := none
  baseUrl := none
  imports := []
  headers := [⟨"X-Id", "uuid", true, none, none⟩]
  enums := [⟨"kind", "kinds", none, [⟨"cat", none⟩, ⟨"dog", none⟩]⟩]
  unions := [⟨"key", "keys", none, [⟨"long", none⟩, ⟨"kind", none⟩]⟩]
  models := [⟨"pet", "pets", none,
    [⟨"id", "long", true, none, none, none, none, none⟩,
     ⟨"tags", "[ string ]", false, none, none, none, none, none⟩]⟩]
  resources := [⟨"pet", "pets", "/pets", none,
    [⟨.get, "/pets/:kind", none, none,
        [⟨"kind", "kind", .path, true, none, none, none, none⟩,
         ⟨"ids", "[long]", .query, true, none, none, none, none⟩],
        [⟨200, "map[pet]", none⟩, ⟨304, "unit", none⟩]⟩,
     ⟨.post, "/pets", none, some ⟨"[key]", none⟩, [], [⟨201, "pet", none⟩]⟩]⟩]

theorem validate_petsDocument :
    (validate {} unreachable petsDocument).outcome = .ok (.accepted petsService) := by
  decide +kernel

/-! ### Building never fails -/

/-- A draft is built to a service exactly when it is complete.  A named draft on which all rules
are silent is complete, so that its validation reaches the checks of the whole service; and no
validation ever ends with a draft that cannot be built. -/
theorem build_succeeds_iff_complete (c : Configuration) (fetch : Fetch) (d : Draft) :
    ((∃ s, Service.build c d = .ok s) ↔ d.Complete) ∧
    (d.name.isSome → FollowsRules fetch d → d.Complete ∧ ∃ s, Service.build c d = .ok s ∧
      (validateDraft c fetch d).outcome =
        .ok (if s.errors.isEmpty then .accepted s else .rejected s.errors)) ∧
    ∀ fault, (validateDraft c fetch d).outcome ≠ .error (.build fault) := by
  refine ⟨?_, fun hn hrules => ?_, fun fault h => ?_⟩
  · rw [← Service.build_isOk_iff (c := c), isOk_iff]
  · exact ⟨hrules.complete hn, validateDraft_of_followsRules hrules hn⟩
  · cases hname : d.name with
    | none => simp [outcome_validateDraft_of_isNone hname] at h
    | some name =>
      obtain ⟨fault', hr, hv⟩ | ⟨errors, -, -, hv⟩ | ⟨-, s, -, hv⟩ :=
        validateDraft_cases c fetch (by simp [hname] : d.name.isSome)
      · obtain rfl : fault' = .build fault := by simpa [hv] using h
        exact ruleErrors_ne_build fault hr
      · simp [hv] at h
      · simp [hv] at h

/-- A fetcher that finds the same description of a service at every address. -/
def described : Fetch := fun _ => .ok "\x7b\"name\": \"a\", \"namespace\": \"b\"\x7d"

/-- A draft with an element of every kind. -/
def notesDraft : Draft where
  name := some "notes"
  key := none
  nameSpace := none
  description := none
  baseUrl := none
  imports := [⟨some "file:///other.json"⟩]
  headers := [⟨some "Trace", some (Label.ofText "uuid"), true, none, none⟩]
  enums := [⟨"mood", none, [⟨some "good", none⟩]⟩]
  unions := [⟨"any", none, [⟨some (Label.ofText "mood"), none⟩]⟩]
  models := [⟨"note", none,
    [⟨some "text", some (Label.ofText "string"), true, none, none, none, none, none, []⟩]⟩]
  resources := [⟨Label.ofText "note", "/notes", none,
    [⟨some "put", "/notes/:id", none, some ⟨some (Label.ofText "note"), none⟩,
      [⟨some "id", some (Label.ofText "long"), true, none, none, none, none⟩],
      [⟨"200", some (Label.ofText "[any]"), none, []⟩], []⟩]⟩]

theorem notesDraft_followsRules : FollowsRules described notesDraft := by
  constructor <;> decide +kernel

theorem build_notesDraft :
    notesDraft.name.isSome ∧ FollowsRules described notesDraft ∧ notesDraft.Complete ∧
      ∃ s, Service.build {} notesDraft = .ok s ∧ (validateDraft {} described notesDraft).outcome =
        .ok (if s.errors.isEmpty then .accepted s else .rejected s.errors) :=
  ⟨rfl, notesDraft_followsRules,
    (build_succeeds_iff_complete {} described notesDraft).2.1 rfl notesDraft_followsRules⟩

end ServiceContract
