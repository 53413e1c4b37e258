import ServiceContract.Proofs.Draft.Distinct
import ServiceContract.Proofs.Number.Spelling
import ServiceContract.Proofs.Service.Reproduction

/-!
# Codes of responses and the keys that they are read from

The responses of an operation stand under keys in the document, and no two of these keys are the
same; in a service they have integers instead.  The rule for responses lets every signed numeral
through and nothing looks for repeated codes, so the codes of an operation can coincide where the
keys are two spellings of one integer, and only there (`accepted_codes_follow_keys`).  They are
all different when the keys are plain numerals.
-/

namespace ServiceContract

variable {c : Configuration} {fetch : Fetch} {s : Service}

namespace Service

/-- The keys that the responses of an operation stand under, in document order. -/
def responseKeys (o : Json.Members) : List Text := (membersAt o "responses").map (·.1)

/-- The codes of the responses. -/
def Operation.codes (op : Operation) : List Int := op.responses.map (·.code)

/-- What the keys in the object of an operation say about the codes of its responses. -/
structure Operation.CodesFollow (o : Json.Members) (op : Operation) : Prop where
  keys_nodup : (responseKeys o).Nodup
  read : List.Forall₂ (fun key code => Number.readInteger key = .ok code) (responseKeys o) op.codes
  nodup_iff : op.codes.Nodup ↔ ((responseKeys o).map Number.spelling).Nodup
  nodup_of_plain : (∀ key ∈ responseKeys o, Number.IsPlain key) → op.codes.Nodup

variable {o : Json.Members} {op : Operation} {path : Text}

theorem nodup_responseKeys (h : (Json.Value.object o).Distinct) : (responseKeys o).Nodup := by
  rw [responseKeys, ← namedObjectsOf_eq]
  exact Draft.nodup_names h "responses"

theorem Operation.ReadFrom.codes_read (h : op.ReadFrom path o) :
    List.Forall₂ (fun key code => Number.readInteger key = .ok code) (responseKeys o) op.codes := by
  rw [responseKeys, codes, List.forall₂_map_left_iff, List.forall₂_map_right_iff]
  exact h.responses.imp fun _ _ hr => hr.code

/-- Keys that are signed numerals are read to different codes when their spellings differ. -/
theorem nodup_iff_of_read {keys : List Text} {codes : List Int}
    (hnumerals : ∀ key ∈ keys, Number.isSignedNumeral key = true)
    (hread : List.Forall₂ (fun key code => Number.readInteger key = .ok code) keys codes) :
    codes.Nodup ↔ (keys.map Number.spelling).Nodup := by
  have hspelled : List.Forall₂ Number.Spells (keys.map Number.spelling) codes := by
    rw [List.forall₂_map_left_iff]
    exact ((List.forall₂_and_left keys codes).2 ⟨hnumerals, hread⟩).imp
      fun key _ h => ⟨key, h.1, rfl, h.2⟩
  exact (List.rel_nodup Number.biUnique_spells hspelled).symm

theorem nodup_map_spelling {keys : List Text} (h : keys.Nodup)
    (hplain : ∀ key ∈ keys, Number.IsPlain key) : (keys.map Number.spelling).Nodup :=
  h.map_on fun key hkey key' hkey' =>
    Number.eq_of_spelling_eq (hplain key hkey) (hplain key' hkey')

theorem Operation.codesFollow_of_readFrom (h : op.ReadFrom path o)
    (hdistinct : (Json.Value.object o).Distinct)
    (hnumerals : ∀ key ∈ responseKeys o, Number.isSignedNumeral key = true) :
    op.CodesFollow o := by
  have hkeys := nodup_responseKeys hdistinct
  have hnodup := nodup_iff_of_read hnumerals h.codes_read
  exact ⟨hkeys, h.codes_read, hnodup, fun hplain => hnodup.2 (nodup_map_spelling hkeys hplain)⟩

/-- The rule for responses has looked at the key of every response. -/
theorem isSignedNumeral_of_followsRules {document : Json.Members} {d : Draft}
    (hd : Draft.ofJson document = .ok d) (hrules : FollowsRules fetch d)
    (ho : o ∈ Draft.operationObjects document) :
    ∀ key ∈ responseKeys o, Number.isSignedNumeral key = true := by
  have hcodes := (Draft.forall_code_iff (p := fun key => Number.isSignedNumeral key = true) hd).1
    fun r hr op hop response hresponse => by
      obtain ⟨n, hn⟩ :=
        (((Rule.responses_eq_ok_nil_iff.1 hrules.responses).1 r hr op hop).2 response hresponse).1
      exact (Rule.readCode_eq_ok_some_iff.1 hn).1
  intro key hkey
  rw [responseKeys, ← namedObjectsOf_eq] at hkey
  obtain ⟨member, hmember, rfl⟩ :=
    List.mem_map.1 ((Draft.map_fst_namedObjectsOf_sublist o "responses").subset hkey)
  exact hcodes o ho member hmember

end Service

open Service in
/-- Each operation of an accepted service has the integers for codes that the keys of its responses
denote.  The keys are all different, and the codes are so exactly when no two of the keys have one
spelling, in particular when all keys are plain numerals. -/
theorem accepted_codes_follow_keys {text : Text}
    (h : (validate c fetch text).outcome = .ok (.accepted s)) :
    ∃ document, readDocument text = .ok document ∧
      List.Forall₂ (fun resource r => List.Forall₂ Operation.CodesFollow
        (entriesAt resource.2 "operations") r.operations)
        (membersAt document "resources") s.resources := by
  obtain ⟨document, d, hm, hd, -, hrules, hb, -⟩ := validate_eq_accepted_iff.1 h
  have hdistinct := distinct_of_readDocument hm
  have hread := readFrom_of_build hd hb ((Draft.unwarned_iff_conforms hd).1 hrules.unwarned)
  refine ⟨document, hm, ?_⟩
  refine ((List.forall₂_and_left _ _).2 ⟨fun _ hr => hr, hread.resources⟩).imp ?_
  rintro resource r ⟨hresource, hr⟩
  refine ((List.forall₂_and_left _ _).2 ⟨fun _ ho => ho, hr.operations⟩).imp ?_
  rintro o op ⟨ho, hop⟩
  have hmem : o ∈ Draft.operationObjects document := by
    rw [← namedObjectsOf_eq] at hresource
    rw [← objectsOf_eq] at ho
    exact List.mem_flatMap.2 ⟨resource, hresource, ho⟩
  exact Operation.codesFollow_of_readFrom hop (Draft.distinct_of_mem_operationObjects hdistinct hmem)
    (isSignedNumeral_of_followsRules hd hrules hmem)

/-- A document with two responses whose keys spell one code. -/
def paddedDocument : Text := Text.ofLines [
  "\x7b\"name\": \"Pets\",",
  "\"models\": \x7b\"pet\": \x7b\"fields\": []\x7d\x7d,",
  "\"resources\": \x7b\"pet\": \x7b\"path\": \"/pets\",",
  "\"operations\": [\x7b\"method\": \"GET\",",
  "\"responses\": \x7b\"200\": \x7b\"type\": \"pet\"\x7d,",
  "\"0200\": \x7b\"type\": \"pet\"\x7d\x7d\x7d]\x7d\x7d\x7d"]

/-- The operation as it is accepted. -/
def paddedOperation : Service.Operation where
  method := .get
  path := "/pets"
  description := none
  body := none
  parameters := []
  responses := [⟨200, "pet", none⟩, ⟨200, "pet", none⟩]

/-- The service that the document is accepted as. -/
def paddedService : Service where
  name := "Pets"
  key := "pets"
  nameSpace := "com.example.pets.v0"
  organization := "example"
  version := "0.0.1-dev"
  description := none
  baseUrl := none
  imports := []
  headers := []
  enums := []
  unions := []
  models := [⟨"pet", "pets", none, []⟩]
  resources := [⟨"pet", "pets", "/pets", none, [paddedOperation]⟩]

theorem validate_paddedDocument :
    (validate {} unreachable paddedDocument).outcome = .ok (.accepted paddedService) := by
  decide +kernel

open Service in
theorem paddedService_codes :
    (validate {} unreachable paddedDocument).outcome = .ok (.accepted paddedService) ∧
    ∃ document, readDocument paddedDocument = .ok document ∧
      List.Forall₂ (fun resource r => List.Forall₂ Operation.CodesFollow
        (entriesAt resource.2 "operations") r.operations)
        (membersAt document "resources") paddedService.resources :=
  ⟨validate_paddedDocument, accepted_codes_follow_keys validate_paddedDocument⟩

/-- Not every operation of an accepted service has different codes. -/
theorem exists_operation_repeating_code :
    ∃ s, (validate {} unreachable paddedDocument).outcome = .ok (.accepted s) ∧
      ∃ r ∈ s.resources, ∃ op ∈ r.operations, ¬ (op.responses.map (·.code)).Nodup := by
  refine ⟨paddedService, validate_paddedDocument, _, List.mem_singleton_self _, paddedOperation,
    List.mem_singleton_self _, ?_⟩
  decide

end ServiceContract
