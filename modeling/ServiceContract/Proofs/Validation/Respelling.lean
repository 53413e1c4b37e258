import ServiceContract.Proofs.Draft.Respelling
import ServiceContract.Proofs.Validation.Reordering

/-!
# Documents with their methods spelled in another way

How the methods of operations are spelled does not decide what comes of a validation, as long as
they name the same methods (`validate_respelled`).  It does show in messages, which quote methods
as they are written, but not in how many there are, and a service has no trace of it, since its
operations have methods and no texts (`build_respelled`).
-/

namespace ServiceContract

open Outcome

variable {c : Configuration} {fetch : Fetch}

/-! ### Building -/

namespace Service

theorem methodOf_respelled {op op' : Draft.Operation} (h : op.Respelled op') :
    methodOf op = methodOf op' := by
  obtain ⟨hmethod⟩ := h
  unfold methodOf
  obtain ⟨hm, hm'⟩ | ⟨text, text', hm, hm', htext⟩ := option_map_cases hmethod
  · rw [hm, hm']
  · rw [hm, hm']
    exact congrArg Except.ok htext

theorem buildOperation_respelled {op op' : Draft.Operation} (h : op.Respelled op') :
    buildOperation op = buildOperation op' := by
  have hmethod := methodOf_respelled h
  obtain ⟨-⟩ := h
  unfold buildOperation
  rw [hmethod]
  rfl

theorem buildResource_respelled {r r' : Draft.Resource} (h : r.Respelled r') :
    buildResource r = buildResource r' := by
  obtain ⟨hoperations⟩ := h
  unfold buildResource
  rw [mapM_eq_of_forall₂ hoperations fun _ _ hop => buildOperation_respelled hop]

/-- Drafts that differ in the spelling of methods are built to one service, or fail alike. -/
theorem build_respelled (c : Configuration) {d d' : Draft} (h : d.Respelled d') :
    build c d = build c d' := by
  obtain ⟨hresources⟩ := h
  unfold build
  rw [mapM_eq_of_forall₂ hresources fun _ _ hr => buildResource_respelled hr]
  rfl

end Service

/-! ### Validation -/

/-- Verdicts with as many messages, or with the same service. -/
inductive Verdict.SameService : Verdict → Verdict → Prop
  | rejected {errors errors' : List Text} (length : errors.length = errors'.length) :
      Verdict.SameService (.rejected errors) (.rejected errors')
  | accepted (s : Service) : Verdict.SameService (.accepted s) (.accepted s)

theorem both_validateDraft_respelled (c : Configuration) (fetch : Fetch) {d d' : Draft}
    (h : d.Respelled d') (hnames : (d.models.map (·.name)).Nodup) :
    Both Verdict.SameService (validateDraft c fetch d).outcome
      (validateDraft c fetch d').outcome := by
  have hboth : Both Verdict.Alike (validateDraft c fetch d).outcome
      (validateDraft c fetch d').outcome := both_validateDraft (h.alike hnames)
  generalize hx : (validateDraft c fetch d).outcome = x at hboth
  generalize hy : (validateDraft c fetch d').outcome = y at hboth
  cases hboth with
  | error e e' => exact .error e e'
  | ok hv =>
    cases hv with
    | rejected hlength => exact .ok (.rejected hlength)
    | @accepted s s' =>
      -- alike services only have checks in common, but these two are built from one draft
      obtain ⟨-, -, hs, -⟩ := validateDraft_eq_accepted_iff.1 hx
      obtain ⟨-, -, hs', -⟩ := validateDraft_eq_accepted_iff.1 hy
      rw [Service.build_respelled c h, hs'] at hs
      obtain rfl := Except.ok.inj hs
      exact .ok (.accepted s')

theorem both_validate_respelled (c : Configuration) (fetch : Fetch) {text text' : Text}
    {members members' : Json.Members} (hm : readDocument text = .ok members)
    (hm' : readDocument text' = .ok members') (h : Draft.DocumentRespelled members members') :
    Both Verdict.SameService (validate c fetch text).outcome (validate c fetch text').outcome := by
  have hdrafts := (Draft.both_ofJson_respelled h).with_ok
  rw [outcome_validate, outcome_validate, hm, hm']
  dsimp only
  generalize hx : Draft.ofJson members = x at hdrafts
  generalize Draft.ofJson members' = y at hdrafts
  cases hdrafts with
  | error e e' => exact .error _ _
  | ok hd =>
    obtain ⟨_, hmodels, _, -, rfl⟩ := Draft.ofJson_eq_ok_iff.1 hx
    refine both_validateDraft_respelled c fetch hd.2 ?_
    exact Draft.nodup_modelNames ⟨.same _, distinct_of_readDocument hm⟩ hmodels

/-- Of two documents that differ in nothing but how the methods of operations are spelled, each of
them naming the same method in both, both validations stop or none does, both documents are
accepted as one service or none is, and when both are rejected there are as many messages about
the one as about the other. -/
theorem validate_respelled (c : Configuration) (fetch : Fetch) {text text' : Text}
    {members members' : Json.Members} (hm : readDocument text = .ok members)
    (hm' : readDocument text' = .ok members') (h : Draft.DocumentRespelled members members') :
    ((∃ fault, (validate c fetch text).outcome = .error fault) ↔
      ∃ fault, (validate c fetch text').outcome = .error fault) ∧
    (∀ s, (validate c fetch text).outcome = .ok (.accepted s) ↔
      (validate c fetch text').outcome = .ok (.accepted s)) ∧
    ∀ errors errors', (validate c fetch text).outcome = .ok (.rejected errors) →
      (validate c fetch text').outcome = .ok (.rejected errors') →
      errors.length = errors'.length := by
  have hboth := both_validate_respelled c fetch hm hm' h
  generalize (validate c fetch text).outcome = x at hboth
  generalize (validate c fetch text').outcome = y at hboth
  cases hboth with
  | error e e' => simp
  | ok hv =>
    cases hv with
    | rejected hlength => simpa using hlength
    | accepted s => simp

/-- A document with one operation, around the text of its method. -/
def methodDocument (method : Text) : Text :=
  Text.ofLines ["\x7b\"name\": \"Pets\",", "\"models\": \x7b\"pet\": \x7b\x7d\x7d,",
    "\"resources\": \x7b\"pet\":", "\x7b\"operations\": [\x7b\"method\":"] ++ method ++
  Text.ofLines [", \"parameters\":", "[\x7b\"name\": \"q\",",
    "\"type\": \"string\"\x7d]\x7d]\x7d\x7d\x7d"]

def methodOperation (method : Text) : Json.Members :=
  [("method", .string method),
   ("parameters", .array [.object [("name", .string "q"), ("type", .string "string")]])]

def methodResource (method : Text) : Json.Members :=
  [("operations", .array [.object (methodOperation method)])]

def methodMembers (method : Text) : Json.Members :=
  [("name", .string "Pets"), ("models", .object [("pet", .object [])]),
   ("resources", .object [("pet", .object (methodResource method))])]

/-- The service whose operation is a query. -/
def queryService : Service where
  name := "Pets"
  key := "pets"
  nameSpace := "com.example.pets.v0"
  organization := "example"
  version := "0.0.1-dev"
  description := none
  baseUrl := none
  imports := []
  headers := []
  enums := []
  unions := []
  models := [⟨"pet", "pets", none, []⟩]
  resources := [⟨"pet", "pets", "/pets", none,
    [⟨.get, "/pets", none, none, [⟨"q", "string", .query, true, none, none, none, none⟩],
      []⟩]⟩]

theorem methodMembers_respelled {t t' : Text} {m : Method} (h : Method.ofText? t = some m)
    (h' : Method.ofText? t' = some m) :
    Draft.DocumentRespelled (methodMembers t) (methodMembers t') := by
  have hoperation : Draft.OperationRespelled (methodOperation t) (methodOperation t') :=
    .cons ⟨rfl, Or.inr ⟨rfl, t, t', m, rfl, rfl, h, h'⟩⟩ (.cons ⟨rfl, Or.inl rfl⟩ .nil)
  have hresource : Draft.ResourceRespelled (methodResource t) (methodResource t') :=
    .cons ⟨rfl, Or.inr ⟨rfl, _, _, rfl, rfl, .cons (.object hoperation) .nil⟩⟩ .nil
  exact .cons ⟨rfl, Or.inl rfl⟩ (.cons ⟨rfl, Or.inl rfl⟩
    (.cons ⟨rfl, Or.inr ⟨rfl, _, _, rfl, rfl, .cons ⟨rfl, .object hresource⟩ .nil⟩⟩ .nil))

theorem readDocument_capitalMethod :
    readDocument (methodDocument "\"GET\"") = .ok (methodMembers "GET") := by cbv

theorem readDocument_mixedMethod :
    readDocument (methodDocument "\" gEt\\n\"") = .ok (methodMembers " gEt\n") := by cbv

theorem methodDocument_respelled :
    readDocument (methodDocument "\"GET\"") = .ok (methodMembers "GET") ∧
    readDocument (methodDocument "\" gEt\\n\"") = .ok (methodMembers " gEt\n") ∧
    Draft.DocumentRespelled (methodMembers "GET") (methodMembers " gEt\n") ∧
    (validate {} unreachable (methodDocument "\"GET\"")).outcome =
      .ok (.accepted queryService) ∧
    (validate {} unreachable (methodDocument "\" gEt\\n\"")).outcome =
      .ok (.accepted queryService) := by
  have hsame : Draft.DocumentRespelled (methodMembers "GET") (methodMembers " gEt\n") :=
    methodMembers_respelled (m := .get) (by decide) (by decide)
  have haccepted : (validate {} unreachable (methodDocument "\"GET\"")).outcome =
      .ok (.accepted queryService) := by decide +kernel
  refine ⟨readDocument_capitalMethod, readDocument_mixedMethod, hsame, haccepted, ?_⟩
  exact ((validate_respelled {} unreachable readDocument_capitalMethod readDocument_mixedMethod
    hsame).2.1 queryService).1 haccepted

end ServiceContract
