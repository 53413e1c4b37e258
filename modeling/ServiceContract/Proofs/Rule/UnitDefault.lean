import ServiceContract.Proofs.Number.Spelling
import ServiceContract.Proofs.Service.Response

/-!
# Responses that get the type `unit`

A response without content needs no type: where none is written, the draft gives it `unit`.  The
draft goes by the text of the code and the rules go by the integer that they read from it, so the
draft knows such a response only under a plain numeral (`mem_codesWithoutContent_iff`).  Under
another spelling of the same code the response has no type, and the rule for responses reports it
(`untyped_response_defaults_iff_plain`).
-/

namespace ServiceContract

open Outcome

/-! ### Codes -/

namespace Rule

/-- The rules read the code as that of a response without content. -/
def IsContentless (code : Text) : Prop :=
  ∃ n, readCode code = .ok (some n) ∧ (n = 204 ∨ n = 304)

/-- Of all spellings of a code that is read, one is plain. -/
theorem eq_of_readCode {code plain : Text} {n : Int} (h : readCode code = .ok (some n))
    (hplain : readCode plain = .ok (some n)) (hc : Number.IsPlain code)
    (hp : Number.IsPlain plain) : code = plain := by
  obtain ⟨hcode, hread⟩ := readCode_eq_ok_some_iff.1 h
  obtain ⟨hcode', hread'⟩ := readCode_eq_ok_some_iff.1 hplain
  refine Number.eq_of_spelling_eq hc hp ?_
  exact (Number.readInteger_eq_iff hcode hcode' hread hread').1 rfl

theorem readCode_204 : readCode "204" = .ok (some 204) := by decide

theorem readCode_304 : readCode "304" = .ok (some 304) := by decide

theorem isPlain_204 : Number.IsPlain "204" := Or.inr ⟨by decide, by decide, by decide⟩

theorem isPlain_304 : Number.IsPlain "304" := Or.inr ⟨by decide, by decide, by decide⟩

/-- The codes that a draft takes for those of responses without content are the plain ones among
those that the rules take for such. -/
theorem mem_codesWithoutContent_iff {code : Text} :
    code ∈ Draft.codesWithoutContent ↔ IsContentless code ∧ Number.IsPlain code := by
  rw [Draft.codesWithoutContent, List.mem_pair]
  constructor
  · rintro (rfl | rfl)
    · exact ⟨⟨204, readCode_204, Or.inl rfl⟩, isPlain_204⟩
    · exact ⟨⟨304, readCode_304, Or.inr rfl⟩, isPlain_304⟩
  · rintro ⟨⟨n, hn, rfl | rfl⟩, hplain⟩
    · exact Or.inl (eq_of_readCode hn readCode_204 hplain isPlain_204)
    · exact Or.inr (eq_of_readCode hn readCode_304 hplain isPlain_304)

/-! ### The rule -/

/-- The message about a response without a type. -/
def untypedResponse (r : Draft.Resource) (op : Draft.Operation) (x : Draft.Response) : Text :=
  operationLabel r op ++ " with response code[" ++ x.code ++ "]: Missing type"

theorem responseType_of_none {types : Declarations} {r : Draft.Resource} {op : Draft.Operation}
    {x : Draft.Response} (h : x.type = none) :
    responseType types r op x = [untypedResponse r op x] := by
  rw [responseType, h, untypedResponse]
  exact congrArg (fun message => [message]) (List.append_assoc _ _ _)

/-- Whatever is declared, `unit` is a type. -/
theorem hasType_unit (types : Declarations) :
    HasType types (some (Label.ofText Primitive.unit.name)) := by
  refine ⟨_, rfl, ?_⟩
  rw [Service.resolve?_of_name_unit (by decide)]
  rfl

/-- What is said about the type of a response is part of what the rule says. -/
theorem mem_responses_of_mem_responseType {d : Draft} {messages : List Text} {message : Text}
    {r : Draft.Resource} {op : Draft.Operation} {x : Draft.Response}
    (h : responses d = .ok messages) (hx : (r, op, x) ∈ responsesOf d)
    (hmessage : message ∈ responseType d.declarations r op x) : message ∈ messages := by
  simp only [responses, bind_eq_ok_iff, pure_eq_ok_iff] at h
  obtain ⟨unreadable, -, rfl⟩ := h
  -- the messages about types stand between those about single codes and those about all codes
  refine List.mem_append_left _ (List.mem_append_left _ (List.mem_append_right _ ?_))
  exact List.mem_flatMap.2 ⟨(r, op, x), hx, hmessage⟩

end Rule

/-! ### Drafts -/

namespace Draft

/-- An object that says nothing of its type. -/
def IsUntyped (value : Json.Value) : Prop :=
  ∃ o : Json.Members, value = .object o ∧ o.get? "type" = none

theorem responseOf_type_of_mem {code : Text} {value : Json.Value} (h : IsUntyped value)
    (hc : code ∈ codesWithoutContent) :
    (responseOf code value).type = some (Label.ofText Primitive.unit.name) := by
  obtain ⟨o, rfl, ho⟩ := h
  exact responseTypeOf_eq_some_iff.2 (Or.inr ⟨ho, hc, rfl⟩)

theorem responseOf_type_of_not_mem {code : Text} {value : Json.Value} (h : IsUntyped value)
    (hc : code ∉ codesWithoutContent) : (responseOf code value).type = none := by
  obtain ⟨o, rfl, ho⟩ := h
  refine Option.eq_none_iff_forall_ne_some.2 fun label hl => ?_
  rcases responseTypeOf_eq_some_iff.1 hl with htype | ⟨-, hmem, -⟩
  · rw [typeOf_eq_none ho] at htype
    cases htype
  · exact hc hmem

/-- The responses of a draft are read from the members of the document, operation by operation. -/
theorem forall₂_responses_of_ofJson {document : Json.Members} {d : Draft}
    (h : ofJson document = .ok d) :
    List.Forall₂ (fun resource r => List.Forall₂ (fun o op =>
        op.responses = (responseMembers o).map fun member => responseOf member.1 member.2)
      (objectsOf resource.2 "operations") r.operations)
      (namedObjectsOf document "resources") d.resources := by
  obtain ⟨_, -, resources, hresources, rfl⟩ := ofJson_eq_ok_iff.1 h
  refine forall₂_of_mapM hresources fun resource _ r hr => ?_
  obtain ⟨operations, hoperations, rfl⟩ := resourceOf_eq_ok_iff.1 hr
  refine forall₂_of_mapM hoperations fun o _ op hop => ?_
  obtain ⟨_, -, rfl⟩ := operationOf_eq_ok_iff.1 hop
  rfl

end Draft

open Draft Rule in
/-- What a draft makes of a member of an operation's responses, and what the rule says about it, if
it is an untyped object and the rules read the code as that of a response without content. -/
structure DefaultsIfPlain (d : Draft) (r : Draft.Resource) (op : Draft.Operation)
    (member : Text × Json.Value) (x : Draft.Response) : Prop where
  code : x.code = member.1
  plain : IsContentless member.1 → IsUntyped member.2 → Number.IsPlain member.1 →
    x.type = some (Label.ofText Primitive.unit.name) ∧ responseType d.declarations r op x = []
  other : IsContentless member.1 → IsUntyped member.2 → ¬ Number.IsPlain member.1 →
    x.type = none ∧ responseType d.declarations r op x = [untypedResponse r op x]

open Draft Rule in
theorem defaultsIfPlain_responseOf (d : Draft) (r : Draft.Resource) (op : Draft.Operation)
    (member : Text × Json.Value) :
    DefaultsIfPlain d r op member (responseOf member.1 member.2) where
  code := responseOf_code _ _
  plain := by
    intro hcode huntyped hplain
    have htype := responseOf_type_of_mem huntyped (mem_codesWithoutContent_iff.2 ⟨hcode, hplain⟩)
    refine ⟨htype, responseType_eq_nil_iff.2 ?_⟩
    rw [htype]
    exact hasType_unit _
  other := by
    intro hcode huntyped hother
    have hnot : member.1 ∉ codesWithoutContent :=
      fun hmem => hother (mem_codesWithoutContent_iff.1 hmem).2
    have htype := responseOf_type_of_not_mem huntyped hnot
    exact ⟨htype, responseType_of_none htype⟩

open Draft Rule in
/-- A draft takes the untyped responses under the plain ones of the codes that the rules read as
204 or 304 for those that have the type `unit`.  In every operation these have it and are not
reported, and the untyped responses under other spellings of the two codes have no type.  The rule
for responses, when it does not stop, reports every response that has none. -/
theorem untyped_response_defaults_iff_plain {document : Json.Members} {d : Draft}
    (h : ofJson document = .ok d) :
    (∀ code, code ∈ codesWithoutContent ↔ IsContentless code ∧ Number.IsPlain code) ∧
    List.Forall₂ (fun resource r => List.Forall₂ (fun o op =>
        List.Forall₂ (DefaultsIfPlain d r op) (responseMembers o) op.responses)
      (objectsOf resource.2 "operations") r.operations)
      (namedObjectsOf document "resources") d.resources ∧
    ∀ r ∈ d.resources, ∀ op ∈ r.operations, ∀ x ∈ op.responses, x.type = none →
      ∀ messages, responses d = .ok messages → untypedResponse r op x ∈ messages := by
  refine ⟨fun _ => mem_codesWithoutContent_iff, ?_, fun r hr op hop x hx hnone messages hm => ?_⟩
  · refine (forall₂_responses_of_ofJson h).imp fun resource r hr => hr.imp fun o op hop => ?_
    rw [hop, List.forall₂_map_right_iff]
    exact List.forall₂_same.2 fun member _ => defaultsIfPlain_responseOf d r op member
  · refine mem_responses_of_mem_responseType hm (mem_responsesOf.2 ⟨hr, hop, hx⟩) ?_
    rw [responseType_of_none hnone]
    exact List.mem_singleton_self _

/-! ### One code under two spellings -/

/-- The members of an operation with two untyped responses without content, of which one stands
under a code with a zero in front. -/
def emptyingMembers : Json.Members :=
  [("method", .string "DELETE"),
   ("responses", .object [("204", .object []), ("0304", .object [])])]

/-- A document with this operation. -/
def emptyingDocument : Text := Text.ofLines [
  "\x7b\"name\": \"Pets\",",
  "\"models\": \x7b\"pet\": \x7b\"fields\": []\x7d\x7d,",
  "\"resources\": \x7b\"pet\": \x7b\"path\": \"/pets\",",
  "\"operations\": [\x7b\"method\": \"DELETE\",",
  "\"responses\": \x7b\"204\": \x7b\x7d, \"0304\": \x7b\x7d\x7d\x7d]\x7d\x7d\x7d"]

/-- The members of the document. -/
def emptyingDocumentMembers : Json.Members :=
  [("name", .string "Pets"),
   ("models", .object [("pet", .object [("fields", .array [])])]),
   ("resources", .object [("pet", .object
     [("path", .string "/pets"), ("operations", .array [.object emptyingMembers])])])]

/-- The operation as the draft has it. -/
def emptyingOperation : Draft.Operation where
  method := some "DELETE"
  path := "/pets"
  description := none
  body := none
  parameters := []
  responses := [⟨"204", some (Label.ofText "unit"), none, []⟩, ⟨"0304", none, none, []⟩]
  warnings := []

/-- The draft of the document. -/
def emptyingDraft : Draft where
  name := some "Pets"
  key := none
  nameSpace := none
  description := none
  baseUrl := none
  imports := []
  headers := []
  enums := []
  unions := []
  models := [⟨"pet", none, []⟩]
  resources := [⟨Label.ofText "pet", "/pets", none, [emptyingOperation]⟩]

theorem readDocument_emptyingDocument :
    readDocument emptyingDocument = .ok emptyingDocumentMembers := by cbv

theorem ofJson_emptyingDocument : Draft.ofJson emptyingDocumentMembers = .ok emptyingDraft := by
  decide +kernel

theorem emptyingDraft_defaults :
    Draft.ofJson emptyingDocumentMembers = .ok emptyingDraft ∧
    List.Forall₂ (fun resource r => List.Forall₂ (fun o op =>
        List.Forall₂ (DefaultsIfPlain emptyingDraft r op) (Draft.responseMembers o) op.responses)
      (Draft.objectsOf resource.2 "operations") r.operations)
      (Draft.namedObjectsOf emptyingDocumentMembers "resources") emptyingDraft.resources :=
  ⟨ofJson_emptyingDocument, (untyped_response_defaults_iff_plain ofJson_emptyingDocument).2.1⟩

open Draft Rule in
/-- Not every untyped response whose code the rules read as 304 has the type `unit`; the rule
reports one that has none. -/
theorem exists_untyped_response_reported :
    readDocument emptyingDocument = .ok emptyingDocumentMembers ∧
    ofJson emptyingDocumentMembers = .ok emptyingDraft ∧
    ∃ r ∈ emptyingDraft.resources, ∃ op ∈ r.operations, ∃ x ∈ op.responses,
      x = responseOf "0304" (.object []) ∧ IsUntyped (.object []) ∧ IsContentless x.code ∧
      x.type ≠ some (Label.ofText Primitive.unit.name) ∧
      responses emptyingDraft = .ok [untypedResponse r op x] := by
  refine ⟨readDocument_emptyingDocument, ofJson_emptyingDocument, _, List.mem_singleton_self _,
    emptyingOperation, List.mem_singleton_self _, ⟨"0304", none, none, []⟩, by decide, by decide,
    ⟨[], rfl, rfl⟩, ⟨304, by decide, Or.inr rfl⟩, by decide, by decide +kernel⟩

end ServiceContract
