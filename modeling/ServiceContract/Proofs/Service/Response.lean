import ServiceContract.Proofs.Datatype.Name
import ServiceContract.Proofs.Service.Closed

/-!
# Responses of accepted services

The checks that depend on the codes of responses are left out for a whole service as soon as one
code cannot be read.  A document with such a code is not accepted, so of an accepted service all
codes were looked at, and each of them is the integer that the rules read (`Response.DraftedAs`).
No reserved code is left, and the successful responses of an operation have one label.

A response without content has to have the type `unit`.  The check looks at the name in the label
only, so a list or a map of `unit` passes it as well: the type is `unit` itself exactly when the
label is that word alone.
-/

namespace ServiceContract

open Outcome

variable {c : Configuration} {fetch : Fetch} {d : Draft} {s : Service}

namespace Service

/-- The response in a draft that a response of a service is built from. -/
structure Response.DraftedAs (x₀ : Draft.Response) (x : Response) : Prop where
  code : Rule.readCode x₀.code = .ok (some x.code)
  type : ∃ label, x₀.type = some label ∧ label.IsSpelled ∧ x.type = label.text

/-- The build reads a code that the rules accept as the integer that they read. -/
theorem Response.draftedAs_of_build {x₀ : Draft.Response} {x : Response}
    (hcode : ∃ n, Rule.readCode x₀.code = .ok (some n))
    (hspelled : ∀ label, x₀.type = some label → label.IsSpelled)
    (h : buildResponse x₀ = .ok x) : x.DraftedAs x₀ := by
  obtain ⟨n, hn⟩ := hcode
  obtain ⟨code, label, hread, hl, rfl⟩ := buildResponse_eq_ok_iff.1 h
  have hcode : code = n :=
    Except.ok.inj (hread.symm.trans (Rule.readCode_eq_ok_some_iff.1 hn).2)
  refine ⟨?_, label, hl, hspelled label hl, rfl⟩
  rw [hn, hcode]

end Service

/-- The responses of an operation of an accepted service come from the responses of an operation
on which all checks that depend on codes are silent. -/
theorem exists_checked_operation {text : Text}
    (h : (validate c fetch text).outcome = .ok (.accepted s)) {r : Service.Resource}
    (hr : r ∈ s.resources) {op : Service.Operation} (hop : op ∈ r.operations) :
    ∃ r₀ op₀, Rule.mixedSuccess r₀ op₀ = [] ∧ Rule.reservedCode r₀ op₀ = [] ∧
      (∀ x₀ ∈ op₀.responses, Rule.contentType r₀ op₀ x₀ = []) ∧
      ∀ x ∈ op.responses, ∃ x₀ ∈ op₀.responses, x.DraftedAs x₀ := by
  obtain ⟨members, d, -, hd, -, hrules, hb, -⟩ := validate_eq_accepted_iff.1 h
  obtain ⟨r₀, hr₀, op₀, hop₀, hbuild⟩ := Service.exists_operation_of_build hb hr hop
  obtain ⟨hops, hcodes⟩ := Rule.responses_eq_ok_nil_iff.1 hrules.responses
  obtain ⟨mixed, reserved, content⟩ := Rule.codeErrors_eq_nil_iff.1 hcodes r₀ hr₀ op₀ hop₀
  refine ⟨r₀, op₀, mixed, reserved, content, fun x hx => ?_⟩
  obtain ⟨_, _, _, _, responses, -, -, -, -, hresponses, rfl⟩ :=
    Service.buildOperation_eq_ok_iff.1 hbuild
  obtain ⟨x₀, hx₀, hxb⟩ := exists_of_mem_mapM hresponses hx
  have hcode := ((hops r₀ hr₀ op₀ hop₀).2 x₀ hx₀).1
  have hspelled := ((Draft.ofJson_spelled hd).operations r₀ hr₀ op₀ hop₀).responses x₀ hx₀
  exact ⟨x₀, hx₀, Service.Response.draftedAs_of_build hcode hspelled hxb⟩

/-! ### Codes -/

/-- In an accepted service no response has the code 404 or one from 500 on, and all responses of
an operation with a code from 200 to 299 have one label. -/
theorem accepted_codes_unreserved_uniform {text : Text}
    (h : (validate c fetch text).outcome = .ok (.accepted s)) {r : Service.Resource}
    (hr : r ∈ s.resources) {op : Service.Operation} (hop : op ∈ r.operations) :
    (∀ x ∈ op.responses, x.code ≠ 404 ∧ x.code < 500) ∧
    ∀ x ∈ op.responses, ∀ y ∈ op.responses, (200 ≤ x.code ∧ x.code ≤ 299) →
      (200 ≤ y.code ∧ y.code ≤ 299) → x.type = y.type := by
  obtain ⟨r₀, op₀, mixed, reserved, -, drafted⟩ := exists_checked_operation h hr hop
  constructor
  · intro x hx
    obtain ⟨x₀, hx₀, hdraft⟩ := drafted x hx
    have hfree := Rule.reservedCode_eq_nil_iff.1 reserved x₀ hx₀
    rw [Rule.codeSatisfies_of_readCode hdraft.code] at hfree
    simpa [Rule.isReserved] using hfree
  · have success : ∀ x ∈ op.responses, (200 ≤ x.code ∧ x.code ≤ 299) →
        x.type ∈ Rule.successLabels op₀ := by
      rintro x hx ⟨hlow, hhigh⟩
      obtain ⟨x₀, hx₀, hdraft⟩ := drafted x hx
      obtain ⟨label, hl, -, htext⟩ := hdraft.type
      refine Rule.mem_successLabels.2 ⟨x₀, hx₀, ?_, label, hl, htext.symm⟩
      have hlt : x.code < 300 := by omega
      rw [Rule.codeSatisfies_of_readCode hdraft.code]
      simp [Rule.isSuccess, hlow, hlt]
    intro x hx y hy hxs hys
    exact Rule.mixedSuccess_eq_nil_iff.1 mixed _ (success x hx hxs) _ (success y hy hys)

/-- A document whose operation has two successful responses, with a leading zero and a blank in
the second, and a response without content that names a list. -/
def unitListDocument : Text := Text.ofLines [
  "\x7b\"name\": \"Pets\",",
  "\"models\": \x7b\"pet\": \x7b\"fields\": []\x7d\x7d,",
  "\"resources\": \x7b\"pet\": \x7b\"path\": \"/pets\",",
  "\"operations\": [\x7b\"method\": \"GET\",",
  "\"responses\": \x7b\"200\": \x7b\"type\": \"pet\"\x7d,",
  "\"0201\": \x7b\"type\": \" pet\"\x7d,",
  "\"304\": \x7b\"type\": \"[unit]\"\x7d\x7d\x7d]\x7d\x7d\x7d"]

/-- The operation as it is accepted. -/
def unitListOperation : Service.Operation where
  method := .get
  path := "/pets"
  description := none
  body := none
  parameters := []
  responses := [⟨200, "pet", none⟩, ⟨201, "pet", none⟩, ⟨304, "[unit]", none⟩]

/-- The service that the document is accepted as. -/
def unitListService : Service where
  name := "Pets"
  key := "pets"
  nameSpace := "com.example.pets.v0"
  organization := "example"
  version := "0.0.1-dev"
  description := none
  baseUrl := none
  imports := []
  headers := []
  enums := []
  unions := []
  models := [⟨"pet", "pets", none, []⟩]
  resources := [⟨"pet", "pets", "/pets", none, [unitListOperation]⟩]

theorem validate_unitListDocument :
    (validate {} unreachable unitListDocument).outcome = .ok (.accepted unitListService) := by
  decide +kernel

theorem unitListOperation_codes :
    (validate {} unreachable unitListDocument).outcome = .ok (.accepted unitListService) ∧
    (∀ x ∈ unitListOperation.responses, x.code ≠ 404 ∧ x.code < 500) ∧
    ∀ x ∈ unitListOperation.responses, ∀ y ∈ unitListOperation.responses,
      (200 ≤ x.code ∧ x.code ≤ 299) → (200 ≤ y.code ∧ y.code ≤ 299) → x.type = y.type :=
  ⟨validate_unitListDocument,
    accepted_codes_unreserved_uniform validate_unitListDocument
      (r := ⟨"pet", "pets", "/pets", none, [unitListOperation]⟩)
      (List.mem_singleton_self _) (List.mem_singleton_self _)⟩

/-! ### Responses without content -/

namespace Service

/-- The label of the response is that of the primitive type `unit` itself, not that of a list or a
map of it. -/
def Response.ReturnsUnit (s : Service) (x : Response) : Prop :=
  s.declarations.resolveText? x.type = some (.scalar ⟨.primitive, Primitive.unit.name⟩)

theorem resolve?_of_name_unit {types : Declarations} {label : Label}
    (hn : label.name = Primitive.unit.name) : types.resolve? label =
      some (Datatype.ofContainer label.container ⟨.primitive, Primitive.unit.name⟩) := by
  have hprimitive : Primitive.isName Primitive.unit.name = true := by decide
  rw [Declarations.resolve?, Declarations.find?, hn, if_pos hprimitive]
  rfl

end Service

/-- In an accepted service a response with the code 204 or 304 has the type `unit` in some
container; it is `unit` itself exactly when the label is this word. -/
theorem contentless_response_names_unit {text : Text}
    (h : (validate c fetch text).outcome = .ok (.accepted s)) {r : Service.Resource}
    (hr : r ∈ s.resources) {op : Service.Operation} (hop : op ∈ r.operations)
    {x : Service.Response} (hx : x ∈ op.responses) (hcode : x.code = 204 ∨ x.code = 304) :
    (∃ container, s.declarations.resolveText? x.type =
      some (Datatype.ofContainer container ⟨.primitive, Primitive.unit.name⟩)) ∧
    (x.ReturnsUnit s ↔ x.type = Primitive.unit.name) := by
  obtain ⟨r₀, op₀, -, -, content, drafted⟩ := exists_checked_operation h hr hop
  obtain ⟨x₀, hx₀, hdraft⟩ := drafted x hx
  obtain ⟨label, hl, hspelled, htext⟩ := hdraft.type
  have hcontent : Rule.codeSatisfies Rule.hasNoContent x₀ = true := by
    rw [Rule.codeSatisfies_of_readCode hdraft.code]
    rcases hcode with hcode | hcode <;> rw [hcode] <;> rfl
  have hname : label.name = Primitive.unit.name :=
    Rule.contentType_eq_nil_iff.1 (content x₀ hx₀) label hl hcontent
  have hresolved : s.declarations.resolveText? x.type =
      some (Datatype.ofContainer label.container ⟨.primitive, Primitive.unit.name⟩) := by
    rw [htext, Declarations.resolveText?_of_isSpelled _ hspelled,
      Service.resolve?_of_name_unit hname]
  refine ⟨⟨label.container, hresolved⟩, ?_⟩
  rw [Service.Response.ReturnsUnit, hresolved, htext]
  constructor
  · intro hscalar
    have hc : label.container = .singleton := by
      cases hc : label.container <;> simp [hc, Datatype.ofContainer] at hscalar ⊢
    rw [← Label.name_of_container_eq_singleton hspelled hc, hname]
  · intro hunit
    have hlabel : label = Label.ofText Primitive.unit.name := by rw [← hspelled, hunit]
    rw [hlabel]
    decide

theorem unitListOperation_names_unit :
    (validate {} unreachable unitListDocument).outcome = .ok (.accepted unitListService) ∧
    (∃ container, unitListService.declarations.resolveText? "[unit]" =
      some (Datatype.ofContainer container ⟨.primitive, Primitive.unit.name⟩)) ∧
    (Service.Response.ReturnsUnit unitListService ⟨304, "[unit]", none⟩ ↔
      ("[unit]" : Text) = Primitive.unit.name) :=
  have hop : unitListOperation ∈ [unitListOperation] := List.mem_singleton_self _
  ⟨validate_unitListDocument,
    contentless_response_names_unit validate_unitListDocument
      (r := ⟨"pet", "pets", "/pets", none, [unitListOperation]⟩) (x := ⟨304, "[unit]", none⟩)
      (List.mem_singleton_self _) hop (by decide) (Or.inr rfl)⟩

/-- Not every response without content of an accepted service has the type `unit`. -/
theorem exists_contentless_response_not_unit :
    ∃ s, (validate {} unreachable unitListDocument).outcome = .ok (.accepted s) ∧
      ∃ r ∈ s.resources, ∃ op ∈ r.operations, ∃ x ∈ op.responses,
        (x.code = 204 ∨ x.code = 304) ∧ ¬ x.ReturnsUnit s := by
  refine ⟨unitListService, validate_unitListDocument, _, List.mem_singleton_self _,
    unitListOperation, List.mem_singleton_self _, ⟨304, "[unit]", none⟩, by decide, Or.inr rfl, ?_⟩
  show ¬ unitListService.declarations.resolveText? "[unit]" = _
  decide

end ServiceContract
