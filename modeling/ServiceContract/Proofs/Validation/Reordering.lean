import ServiceContract.Proofs.Draft.Reordering
import ServiceContract.Proofs.Rule.Likeness
import ServiceContract.Proofs.Service.Likeness
import ServiceContract.Proofs.Validation.Clean

/-!
# Documents with their members in another order

The order of the members of objects, at any depth, does not decide what comes of a validation.  It
does show in the messages, which follow the order of the document and name the first of several
reserved codes, but not in how many there are (`validate_reordered`).  The drafts of the two
documents are alike, so that every rule, the building and the checks of the whole service go the
same way for both (`both_validateDraft`).
-/

namespace ServiceContract

open Outcome

variable {c : Configuration} {fetch : Fetch}

/-- Verdicts with as many messages, or with services that are alike. -/
inductive Verdict.Alike : Verdict → Verdict → Prop
  | rejected {errors errors' : List Text} (length : errors.length = errors'.length) :
      Verdict.Alike (.rejected errors) (.rejected errors')
  | accepted {s s' : Service} (services : s.Alike s') : Verdict.Alike (.accepted s) (.accepted s')

section

variable {d d' : Draft}

theorem length_elementErrors (h : d.Alike d') :
    (elementErrors d).length = (elementErrors d').length := by
  simp only [elementErrors, List.length_append]
  rw [Rule.length_enums h, Rule.length_unions h, Rule.length_headers h, Rule.length_fields h,
    Rule.length_operations h, Rule.length_parameterBodies h, Rule.length_parameters h]

theorem both_ruleErrors (h : d.Alike d') (imports : Except Import.Fault (List Text)) :
    Both (fun es es' => es.length = es'.length) (ruleErrors d imports) (ruleErrors d' imports) := by
  unfold ruleErrors
  refine (both_eq _).bind ?_
  rintro importErrors _ rfl
  refine (Rule.both_responses h).mapError.bind fun es es' hes => .ok ?_
  simp only [List.length_append]
  rw [Rule.length_key h, length_elementErrors h, hes, Rule.length_pathParameters h,
    Rule.length_pathParametersRequired h]

theorem both_buildAndCheck (h : d.Alike d') :
    Both Verdict.Alike (buildAndCheck c d) (buildAndCheck c d') := by
  unfold buildAndCheck
  refine (Service.both_build c h).mapError.bind fun s s' hs => .ok ?_
  rw [isEmpty_eq_of_length hs.length_errors]
  split
  · exact .accepted hs
  · exact .rejected hs.length_errors

/-- Validations of alike drafts both stop, or end with verdicts that are alike. -/
theorem both_validateDraft (h : d.Alike d') :
    Both Verdict.Alike (validateDraft c fetch d).outcome (validateDraft c fetch d').outcome := by
  cases hn : d.name with
  | none =>
    rw [outcome_validateDraft_of_isNone hn, outcome_validateDraft_of_isNone (h.name ▸ hn)]
    exact .ok (.rejected rfl)
  | some name =>
    have hname : d.name.isSome := by rw [hn]; rfl
    rw [outcome_validateDraft_of_isSome hname, outcome_validateDraft_of_isSome (h.name ▸ hname),
      Rule.imports, h.imports, ← Rule.imports]
    refine (both_ruleErrors h _).bind fun es es' hes => ?_
    rw [isEmpty_eq_of_length hes]
    split
    · exact both_buildAndCheck h
    · exact .ok (.rejected hes)

end

/-! ### Documents -/

theorem both_validate (c : Configuration) (fetch : Fetch) {text text' : Text}
    {members members' : Json.Members} (hm : readDocument text = .ok members)
    (hm' : readDocument text' = .ok members')
    (h : Json.Value.Reordered (.object members) (.object members')) :
    Both Verdict.Alike (validate c fetch text).outcome (validate c fetch text').outcome := by
  have htwin : members.Twin members' := ⟨h, distinct_of_readDocument hm⟩
  have hdrafts := Draft.both_ofJson htwin
  rw [outcome_validate, outcome_validate, hm, hm']
  dsimp only
  generalize Draft.ofJson members = x at hdrafts
  generalize Draft.ofJson members' = y at hdrafts
  cases hdrafts with
  | ok hd => exact both_validateDraft hd
  | error e e' => exact .error _ _

/-- Of two documents that differ in nothing but the order of the members of objects, at any depth,
both validations stop or none does, both documents are accepted or none is, and when both are
rejected there are as many messages about the one as about the other. -/
theorem validate_reordered (c : Configuration) (fetch : Fetch) {text text' : Text}
    {members members' : Json.Members} (hm : readDocument text = .ok members)
    (hm' : readDocument text' = .ok members')
    (h : Json.Value.Reordered (.object members) (.object members')) :
    ((∃ fault, (validate c fetch text).outcome = .error fault) ↔
      ∃ fault, (validate c fetch text').outcome = .error fault) ∧
    ((∃ s, (validate c fetch text).outcome = .ok (.accepted s)) ↔
      ∃ s, (validate c fetch text').outcome = .ok (.accepted s)) ∧
    ∀ errors errors', (validate c fetch text).outcome = .ok (.rejected errors) →
      (validate c fetch text').outcome = .ok (.rejected errors') →
      errors.length = errors'.length := by
  have hboth := both_validate c fetch hm hm' h
  generalize (validate c fetch text).outcome = x at hboth
  generalize (validate c fetch text').outcome = y at hboth
  cases hboth with
  | error e e' => simp
  | ok hv =>
    cases hv with
    | rejected hlength => simpa using hlength
    | accepted hs => simp

/-- A document with two enums, of which `a` has a value without a name, and `b` two of them. -/
def enumsDocument : Text := Text.ofLines [
  "\x7b\"name\": \"Pets\", \"enums\":",
  "\x7b\"a\": \x7b\"values\": [\x7b\x7d]\x7d,",
  "\"b\": \x7b\"values\": [\x7b\x7d, \x7b\x7d]\x7d\x7d\x7d"]

/-- The document with the enums in front of the name, and `b` in front of `a`. -/
def enumsFirstDocument : Text := Text.ofLines [
  "\x7b\"enums\": \x7b\"b\": \x7b\"values\": [\x7b\x7d, \x7b\x7d]\x7d,",
  "\"a\": \x7b\"values\": [\x7b\x7d]\x7d\x7d, \"name\": \"Pets\"\x7d"]

/-- An enum with as many values without a name. -/
def unnamedValues (n : Nat) : Json.Value :=
  .object [("values", .array (List.replicate n (.object [])))]

def enumsMembers : Json.Members :=
  [("name", .string "Pets"), ("enums", .object [("a", unnamedValues 1), ("b", unnamedValues 2)])]

def enumsFirstMembers : Json.Members :=
  [("enums", .object [("b", unnamedValues 2), ("a", unnamedValues 1)]), ("name", .string "Pets")]

theorem enumsMembers_reordered :
    Json.Value.Reordered (.object enumsMembers) (.object enumsFirstMembers) := by
  have henums : Json.Value.Reordered (.object [("a", unnamedValues 1), ("b", unnamedValues 2)])
      (.object [("b", unnamedValues 2), ("a", unnamedValues 1)]) :=
    .object (.swap _ _ _) (.cons (.intro _ (.same _)) (.cons (.intro _ (.same _)) .nil))
  exact .object (.swap _ _ _) (.cons (.intro _ henums) (.cons (.intro _ (.same _)) .nil))

theorem enumsDocument_reordered :
    readDocument enumsDocument = .ok enumsMembers ∧
    readDocument enumsFirstDocument = .ok enumsFirstMembers ∧
    Json.Value.Reordered (.object enumsMembers) (.object enumsFirstMembers) ∧
    ∃ errors errors', errors ≠ errors' ∧ errors.length = errors'.length ∧
      (validate {} unreachable enumsDocument).outcome = .ok (.rejected errors) ∧
      (validate {} unreachable enumsFirstDocument).outcome = .ok (.rejected errors') := by
  have hread : readDocument enumsDocument = .ok enumsMembers := by cbv
  have hread' : readDocument enumsFirstDocument = .ok enumsFirstMembers := by cbv
  have hrejected : (validate {} unreachable enumsDocument).outcome = .ok (.rejected
      ["Enum[a] - all values must have a name", "Enum[b] - all values must have a name",
        "Enum[b] - all values must have a name"]) := by decide +kernel
  have hrejected' : (validate {} unreachable enumsFirstDocument).outcome = .ok (.rejected
      ["Enum[b] - all values must have a name", "Enum[b] - all values must have a name",
        "Enum[a] - all values must have a name"]) := by decide +kernel
  have hlength := (validate_reordered {} unreachable hread hread' enumsMembers_reordered).2.2 _ _
    hrejected hrejected'
  exact ⟨hread, hread', enumsMembers_reordered, _, _, by decide, hlength, hrejected, hrejected'⟩

end ServiceContract
