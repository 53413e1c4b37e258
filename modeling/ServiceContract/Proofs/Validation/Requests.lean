import ServiceContract.Proofs.Draft.OfJson
import ServiceContract.Proofs.Rule.Import
import ServiceContract.Validation

/-!
# What a validation asks the fetcher for

A validation asks for nothing unless the text holds an object with a name.  Then, if it comes to an
end, it has asked for the usable addresses of the imports in document order, each as often as it is
written and just as it is written.  Neither the answers of the fetcher nor what else is wrong with
the document change this (`validate_asksFor`); the fetcher may even have a memory.  All of it is
read off the inquiry that a validation is (`asks_inquire`).
-/

namespace ServiceContract

open Inquiry

variable {d : Draft}

/-! ### Requests -/

/-- The addresses of the imports in a document that have no problems, in document order. -/
def importAddresses (members : Json.Members) : List Text :=
  (Draft.objectsOf members "imports").filterMap fun i =>
    (Draft.textOf i "uri").filter fun uri => (Uri.problems uri).isEmpty

/-- The requests of a validation of the text: none without an object that has a name, and with one
the addresses of its imports, of which a validation that stops may miss the last ones. -/
structure Validation.AsksFor (text : Text) (v : Validation) : Prop where
  unnamed : (¬ ∃ members name, readDocument text = .ok members ∧
    members.get? "name" = some (.string name)) → v.asked = []
  start : ∀ members, readDocument text = .ok members → v.asked <+: importAddresses members
  all : v.outcome.isOk = true → ∀ members name, readDocument text = .ok members →
    members.get? "name" = some (.string name) → v.asked = importAddresses members

theorem filterMap_usableAddress?_of_ofJson {members : Json.Members}
    (h : Draft.ofJson members = .ok d) :
    d.imports.filterMap Rule.usableAddress? = importAddresses members := by
  obtain ⟨models, -, resources, -, rfl⟩ := Draft.ofJson_eq_ok_iff.1 h
  rw [List.filterMap_map]
  rfl

/-- A fault of the rule for imports is one of all rules. -/
theorem ruleErrors_error (d : Draft) (fault : Import.Fault) :
    ∃ fault', ruleErrors d (.error fault) = .error fault' :=
  ⟨.imported fault, rfl⟩

/-- The validation of a draft asks for what the rule for imports asks for, if the draft has a
name. -/
theorem asks_inquireDraft (c : Configuration) (d : Draft) :
    Asks (if d.name.isSome then d.imports.filterMap Rule.usableAddress? else [])
      (inquireDraft c d) := by
  unfold inquireDraft
  cases d.name with
  | none => exact .done _
  | some name =>
    rw [Option.isSome_some, if_pos rfl,
      ← List.append_nil (d.imports.filterMap Rule.usableAddress?)]
    refine ((Rule.asks_imports d).mapOutcome (ruleErrors_error d)).bind fun errors => ?_
    split
    · exact (Asks.done (buildAndCheck c d)).bind fun verdict => .note (.done _)
    · exact .note (.done _)

/-- What the validation of a text asks for if it comes to an end: nothing without an object that
has a name, and with one the addresses of its imports. -/
def requestsOf (text : Text) : List Text :=
  match readDocument text with
  | .ok members => if (Draft.textOf members "name").isSome then importAddresses members else []
  | .error _ => []

theorem asks_inquire (c : Configuration) (text : Text) : Asks (requestsOf text) (inquire c text) := by
  unfold inquire requestsOf
  cases readDocument text with
  | error fault => exact .note (.done _)
  | ok members =>
    dsimp only
    cases hd : Draft.ofJson members with
    | error fault => exact .error _ _
    | ok d =>
      obtain ⟨models, -, resources, -, hd'⟩ := Draft.ofJson_eq_ok_iff.1 hd
      have hname : d.name = Draft.textOf members "name" := by rw [hd']
      rw [← hname, ← filterMap_usableAddress?_of_ofJson hd]
      exact asks_inquireDraft c d

theorem requestsOf_of_named {text name : Text} {members : Json.Members}
    (hm : readDocument text = .ok members) (hn : members.get? "name" = some (.string name)) :
    requestsOf text = importAddresses members := by
  rw [requestsOf, hm]
  dsimp only
  rw [Draft.textOf_eq_some_iff.2 hn]
  rfl

theorem requestsOf_of_unnamed {text : Text} (h : ¬ ∃ members name,
    readDocument text = .ok members ∧ members.get? "name" = some (.string name)) :
    requestsOf text = [] := by
  unfold requestsOf
  cases hm : readDocument text with
  | error fault => rfl
  | ok members =>
    dsimp only
    rw [if_neg]
    intro hname
    obtain ⟨name, hn⟩ := Option.isSome_iff_exists.1 hname
    exact h ⟨members, name, hm, Draft.textOf_eq_some_iff.1 hn⟩

theorem requestsOf_isPrefix {text : Text} {members : Json.Members}
    (hm : readDocument text = .ok members) : requestsOf text <+: importAddresses members := by
  rw [requestsOf, hm]
  dsimp only
  split_ifs
  · exact List.prefix_rfl
  · exact List.nil_prefix

theorem asksFor_of_requestsOf {text : Text} {v : Validation} (hstart : v.asked <+: requestsOf text)
    (hall : v.outcome.isOk = true → v.asked = requestsOf text) : v.AsksFor text where
  unnamed h := List.prefix_nil.1 (requestsOf_of_unnamed h ▸ hstart)
  start _ hm := hstart.trans (requestsOf_isPrefix hm)
  all hok _ _ hm hn := (hall hok).trans (requestsOf_of_named hm hn)

/-- With every fetcher, also with one that has a memory, a validation that comes to an end has asked
for nothing if the text holds no object with a name, and otherwise for the usable addresses of the
imports in the object, in document order. -/
theorem validate_asksFor (c : Configuration) (text : Text) :
    (∀ fetch : Fetch, (validate c fetch text).AsksFor text) ∧
      ∀ fetch : RecallingFetch, Validation.AsksFor text ((inquire c text).runAfter fetch []) := by
  have hasks : ∀ fetch : RecallingFetch,
      Validation.AsksFor text ((inquire c text).runAfter fetch []) := fun fetch =>
    asksFor_of_requestsOf ((asks_inquire c text).isPrefix_asked fetch [])
      ((asks_inquire c text).asked_eq fetch [])
  refine ⟨fun fetch => ?_, hasks⟩
  have hrun := hasks fun _ => fetch
  rwa [runAfter_const] at hrun

end ServiceContract
