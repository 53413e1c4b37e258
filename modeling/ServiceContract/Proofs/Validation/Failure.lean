import ServiceContract.Proofs.Draft.OfJson
import ServiceContract.Proofs.Import
import ServiceContract.Proofs.Number.Binary64
import ServiceContract.Proofs.Validation.Clean

/-!
# Where validation stops without a verdict

Three kinds of integers stop a validation: a bound that no double is near to, which keeps the draft
from being read (`draft_read_iff_bounds_in_range`), and, once the document is known to have a name,
an integer of an imported text or a response code with too many digits.  Nothing else does, as long
as the fetcher answers; and every verdict is a service or at least one message
(`validate_stops_iff`).
-/

namespace ServiceContract

open Outcome

variable {c : Configuration} {fetch : Fetch} {members : Json.Members} {d : Draft}

/-- A field or a parameter has a bound that is an integer beyond the range of doubles. -/
def HasHugeBound (members : Json.Members) : Prop :=
  ∃ o ∈ Draft.fieldObjects members ++ Draft.parameterObjects members,
    ∃ key ∈ (["minimum", "maximum"] : List Text), ∃ n, o.get? key = some (.int n) ∧
      Number.Binary64.overflow ≤ n.natAbs

/-- An import has a usable address, and reading the text from there stops at an integer with too
many digits. -/
def HasHugeImport (fetch : Fetch) (members : Json.Members) : Prop :=
  ∃ i ∈ Draft.objectsOf members "imports", ∃ uri, i.get? "uri" = some (.string uri) ∧
    Uri.problem? uri = none ∧ ∃ text n, fetch uri = .ok text ∧ Json.HasLongInteger text n ∧
      Json.read text = .error (.integerTooLong n)

/-- A response stands under a code that is an integer with too many digits. -/
def HasHugeCode (members : Json.Members) : Prop :=
  ∃ op ∈ Draft.operationObjects members, ∃ member ∈ Draft.responseMembers op,
    Number.isSignedNumeral member.1 = true ∧
      Number.digitLimit < (Number.splitMinus member.1).2.length

/-! ### Reading the draft -/

theorem not_boundsFit_iff {o : Json.Members} :
    ¬Draft.BoundsFit o ↔ ∃ key ∈ (["minimum", "maximum"] : List Text), ∃ n,
      o.get? key = some (.int n) ∧ Number.Binary64.overflow ≤ n.natAbs := by
  rw [Draft.BoundsFit, not_and_or, Bool.not_eq_true, Bool.not_eq_true,
    Draft.boundOf_isOk_eq_false_iff, Draft.boundOf_isOk_eq_false_iff]
  simp only [Number.Binary64.ofInt?_eq_none_iff, List.mem_cons, List.not_mem_nil, or_false,
    exists_eq_or_imp, exists_eq_left]

/-- Reading the draft fails at a huge bound. -/
theorem ofJson_isOk_eq_false_iff : (Draft.ofJson members).isOk = false ↔ HasHugeBound members := by
  rw [← Bool.not_eq_true, Draft.ofJson_isOk_iff]
  push Not
  simp only [not_boundsFit_iff, HasHugeBound]

/-- Whatever the shapes of its values, a draft is read from an object unless a bound of a field or
a parameter is an integer beyond the range of doubles. -/
theorem draft_read_iff_bounds_in_range (members : Json.Members) :
    (∃ d, Draft.ofJson members = .ok d) ↔
      ∀ o ∈ Draft.fieldObjects members ++ Draft.parameterObjects members,
        ∀ key ∈ (["minimum", "maximum"] : List Text), ∀ n, o.get? key = some (.int n) →
          n.natAbs < Number.Binary64.overflow := by
  rw [← isOk_iff, ← Bool.not_eq_false, ofJson_isOk_eq_false_iff, HasHugeBound]
  push Not
  rfl

/-- A document with a bound of 310 digits. -/
def hugeBoundDocument : Text :=
  Text.ofString "\x7b\"name\": \"a\", \"models\": \x7b\"m\": \x7b\"fields\": [" ++
    Text.ofString "\x7b\"name\": \"f\", \"type\": \"long\", \"maximum\": 1" ++
    List.replicate 309 (.char '0') ++ Text.ofString "\x7d]\x7d\x7d\x7d"

/-- No draft is read from some documents. -/
theorem hugeBoundDocument_unread : ∃ members, readDocument hugeBoundDocument = .ok members ∧
    Draft.ofJson members = .error .outOfRange := by
  have hread : (readDocument hugeBoundDocument).toOption.map
      (fun members => (Draft.ofJson members).isOk) = some false := by decide +kernel
  cases hm : readDocument hugeBoundDocument with
  | error fault => simp [hm, Except.toOption] at hread
  | ok members =>
    rw [hm] at hread
    obtain ⟨fault, hd⟩ := isOk_eq_false_iff.1 (Option.some.inj hread)
    cases fault
    exact ⟨members, rfl, hd⟩

/-! ### The rules -/

/-- The rule for imports stops at a huge integer of an imported text. -/
theorem imports_isOk_eq_false_iff (hf : fetch.Answers) (h : Draft.ofJson members = .ok d) :
    ((Rule.imports d).run fetch).outcome.isOk = false ↔ HasHugeImport fetch members := by
  obtain ⟨models, -, resources, -, rfl⟩ := Draft.ofJson_eq_ok_iff.1 h
  simp only [Rule.imports_isOk_eq_false_iff, List.mem_map, exists_exists_and_eq_and,
    Draft.importOf, Draft.textOf_eq_some_iff, Import.check_isOk_eq_false_iff hf, HasHugeImport]

/-- The rule for responses stops at a huge code. -/
theorem responses_isOk_eq_false_iff (h : Draft.ofJson members = .ok d) :
    (Rule.responses d).isOk = false ↔ HasHugeCode members := by
  rw [← Bool.not_eq_true, Rule.responses_isOk_iff,
    Draft.forall_code_iff (p := fun code => (Rule.readCode code).isOk = true) h]
  push Not
  simp only [ne_eq, Bool.not_eq_true, Rule.readCode_isOk_eq_false_iff, HasHugeCode]

/-- The validation of a named draft stops at a rule, if at all. -/
theorem validateDraft_isOk_eq_false_iff (hf : fetch.Answers) (h : Draft.ofJson members = .ok d)
    (hn : d.name.isSome) : (validateDraft c fetch d).outcome.isOk = false ↔
      HasHugeImport fetch members ∨ HasHugeCode members := by
  rw [← Bool.not_eq_true, validateDraft_isOk_iff hn, not_and_or, Bool.not_eq_true,
    Bool.not_eq_true, imports_isOk_eq_false_iff hf h, responses_isOk_eq_false_iff h]

/-! ### Verdicts -/

/-- A verdict that says something: a service, or at least one message. -/
def Verdict.Speaks : Verdict → Prop
  | .accepted _ => True
  | .rejected errors => errors ≠ []

theorem validateDraft_speaks {verdict : Verdict}
    (h : (validateDraft c fetch d).outcome = .ok verdict) : verdict.Speaks := by
  cases hn : d.name with
  | none =>
    rw [outcome_validateDraft_of_isNone hn] at h
    obtain rfl := Except.ok.inj h
    exact List.cons_ne_nil _ _
  | some name =>
    have hname : d.name.isSome := by rw [hn]; rfl
    obtain ⟨fault, -, hv⟩ | ⟨errors, hne, -, hv⟩ | ⟨-, s, -, hv⟩ :=
      validateDraft_cases c fetch hname
    · rw [hv] at h
      cases h
    · rw [hv] at h
      obtain rfl := Except.ok.inj h
      exact hne
    · rw [hv] at h
      obtain rfl := Except.ok.inj h
      by_cases he : s.errors = []
      · simp [he, Verdict.Speaks]
      · simp [he, Verdict.Speaks]

theorem validate_speaks {text : Text} {verdict : Verdict}
    (h : (validate c fetch text).outcome = .ok verdict) : verdict.Speaks := by
  rw [outcome_validate] at h
  cases hm : readDocument text with
  | error fault =>
    rw [hm] at h
    obtain rfl := Except.ok.inj h
    exact List.cons_ne_nil _ _
  | ok members =>
    rw [hm] at h
    dsimp only at h
    cases hd : Draft.ofJson members with
    | error fault =>
      rw [hd] at h
      cases h
    | ok d =>
      rw [hd] at h
      exact validateDraft_speaks h

/-- The validation of an object stops when its draft cannot be read, or when it has a name and a
rule stops. -/
theorem validate_isOk_eq_false_iff {text : Text} (hf : fetch.Answers)
    (hm : readDocument text = .ok members) : (validate c fetch text).outcome.isOk = false ↔
      HasHugeBound members ∨ (∃ name, members.get? "name" = some (.string name)) ∧
        (HasHugeImport fetch members ∨ HasHugeCode members) := by
  rw [← ofJson_isOk_eq_false_iff]
  rw [outcome_validate, hm]
  dsimp only
  cases hd : Draft.ofJson members with
  | error fault => simp
  | ok d =>
    obtain ⟨models, -, resources, -, hd'⟩ := Draft.ofJson_eq_ok_iff.1 hd
    have hname : d.name = Draft.textOf members "name" := by rw [hd']
    simp only [← Draft.textOf_eq_some_iff, ← hname]
    cases hn : d.name with
    | none => simp [outcome_validateDraft_of_isNone hn]
    | some name =>
      rw [validateDraft_isOk_eq_false_iff hf hd (by rw [hn]; rfl)]
      simp

/-- With a fetcher that answers, the validation of a text stops without a verdict exactly when the
text holds an object with a huge bound, or one with a name and a huge import or a huge code.  Any
verdict is a service or at least one message. -/
theorem validate_stops_iff (c : Configuration) (fetch : Fetch) (text : Text)
    (hf : fetch.Answers) :
    ((∃ fault, (validate c fetch text).outcome = .error fault) ↔
      ∃ members, readDocument text = .ok members ∧ (HasHugeBound members ∨
        (∃ name, members.get? "name" = some (.string name)) ∧
          (HasHugeImport fetch members ∨ HasHugeCode members))) ∧
    ∀ verdict, (validate c fetch text).outcome = .ok verdict → verdict.Speaks := by
  refine ⟨?_, fun verdict h => validate_speaks h⟩
  rw [← isOk_eq_false_iff]
  constructor
  · intro h
    cases hm : readDocument text with
    | error fault => simp [outcome_validate, hm] at h
    | ok members => exact ⟨members, rfl, (validate_isOk_eq_false_iff hf hm).1 h⟩
  · rintro ⟨members, hm, h⟩
    exact (validate_isOk_eq_false_iff hf hm).2 h

/-- A document with a name and an import. -/
def importingDocument : Text :=
  "\x7b\"name\": \"a\", \"imports\": [\x7b\"uri\": \"file:///b\"\x7d]\x7d"

theorem validate_importingDocument_stops :
    numerals.Answers ∧ ∃ members, readDocument importingDocument = .ok members ∧
      (HasHugeBound members ∨ (∃ name, members.get? "name" = some (.string name)) ∧
        (HasHugeImport numerals members ∨ HasHugeCode members)) :=
  ⟨numerals_answers, (validate_stops_iff {} numerals importingDocument numerals_answers).1.1
    ⟨.imported (.integer (.tooLong 4301)), by decide +kernel⟩⟩

end ServiceContract
