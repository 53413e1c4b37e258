import ServiceContract.Proofs.Number.Integer
import ServiceContract.Proofs.Rule.Element
import ServiceContract.Proofs.Text.Order
import ServiceContract.Rule.Response

/-!
# What the rule for responses asks for

The rule reads the codes of all responses first and stops at a code that is written as an integer
with too many digits, and for no other reason (`responses_isOk_iff`).  It is silent exactly when
methods are known, codes are read, types resolve, the checks that depend on codes find nothing,
and no response carries a warning (`responses_eq_ok_nil_iff`).
-/

namespace ServiceContract.Rule

open Outcome

/-! ### Codes -/

theorem readCode_eq_ok_some_iff {code : Text} {n : Int} :
    readCode code = .ok (some n) ↔
      Number.isSignedNumeral code = true ∧ Number.readInteger code = .ok n := by
  unfold readCode
  by_cases h : Number.isSignedNumeral code = true
  · rw [if_pos h, map_eq_ok_iff]
    simp [h, eq_comm]
  · rw [if_neg h]
    simp [h]

/-- A code stops the rule when it is an integer with too many digits. -/
theorem readCode_isOk_eq_false_iff {code : Text} :
    (readCode code).isOk = false ↔ Number.isSignedNumeral code = true ∧
      Number.digitLimit < (Number.splitMinus code).2.length := by
  unfold readCode
  by_cases h : Number.isSignedNumeral code = true
  · rw [if_pos h, isOk_map, Number.readInteger_of_isSignedNumeral h]
    by_cases hl : Number.digitLimit < (Number.splitMinus code).2.length
    · simp [h, hl]
    · simp [h, hl]
  · rw [if_neg h]
    simp [h]

/-! ### All responses -/

theorem mem_responsesOf {d : Draft} {r : Draft.Resource} {op : Draft.Operation}
    {response : Draft.Response} : (r, op, response) ∈ responsesOf d ↔
      r ∈ d.resources ∧ op ∈ r.operations ∧ response ∈ op.responses := by
  simp only [responsesOf, List.mem_flatMap, List.mem_map]
  constructor
  · rintro ⟨⟨r', op'⟩, hop, response', hr, he⟩
    obtain ⟨rfl, rfl, rfl⟩ : r' = r ∧ op' = op ∧ response' = response := by simpa using he
    obtain ⟨hr', hop'⟩ := mem_operationsOf.1 hop
    exact ⟨hr', hop', hr⟩
  · rintro ⟨hr, hop, hres⟩
    exact ⟨(r, op), mem_operationsOf.2 ⟨hr, hop⟩, response, hres, rfl⟩

/-- A statement about all responses, one operation after the other. -/
theorem forall_mem_responsesOf {d : Draft}
    {p : Draft.Resource × Draft.Operation × Draft.Response → Prop} :
    (∀ x ∈ responsesOf d, p x) ↔ ∀ r ∈ d.resources, ∀ op ∈ r.operations,
      ∀ response ∈ op.responses, p (r, op, response) := by
  constructor
  · intro h r hr op hop response hres
    exact h _ (mem_responsesOf.2 ⟨hr, hop, hres⟩)
  · rintro h ⟨r, op, response⟩ hx
    obtain ⟨hr, hop, hres⟩ := mem_responsesOf.1 hx
    exact h r hr op hop response hres

/-- What the rule says about the code of a response, if it can read it. -/
def aboutCode (x : Draft.Resource × Draft.Operation × Draft.Response) :
    Except Number.IntegerFault (List Text) :=
  (readCode x.2.2.code).map fun code =>
    if code.isNone then [unreadableCode x.1 x.2.1 x.2.2] else []

theorem unreadableCodes_eq (d : Draft) :
    unreadableCodes d = ((responsesOf d).mapM aboutCode).map List.flatten := by
  change ((responsesOf d).mapM aboutCode >>= fun messages => pure messages.flatten) = _
  cases (responsesOf d).mapM aboutCode <;> rfl

theorem aboutCode_eq_ok_nil_iff {x : Draft.Resource × Draft.Operation × Draft.Response} :
    aboutCode x = .ok [] ↔ ∃ n, readCode x.2.2.code = .ok (some n) := by
  unfold aboutCode
  cases readCode x.2.2.code with
  | error fault => simp [Except.map]
  | ok code => cases code <;> simp [Except.map]

/-! ### Checks that depend on codes -/

theorem codeSatisfies_of_readCode {p : Int → Bool} {response : Draft.Response} {n : Int}
    (h : readCode response.code = .ok (some n)) : codeSatisfies p response = p n := by
  unfold codeSatisfies
  rw [h]

theorem mem_successLabels {op : Draft.Operation} {t : Text} :
    t ∈ successLabels op ↔ ∃ response ∈ op.responses, codeSatisfies isSuccess response = true ∧
      ∃ label, response.type = some label ∧ label.text = t := by
  simp only [successLabels, List.mem_eraseDups, List.mem_filterMap, List.mem_filter,
    Option.map_eq_some_iff, and_assoc]

theorem mixedSuccess_eq_nil_iff {r : Draft.Resource} {op : Draft.Operation} :
    mixedSuccess r op = [] ↔ ∀ t ∈ successLabels op, ∀ u ∈ successLabels op, t = u := by
  have hnodup : (successLabels op).Nodup := Text.nodup_eraseDups _
  unfold mixedSuccess
  rw [ite_eq_right_iff]
  cases hl : successLabels op with
  | nil => simp
  | cons t rest =>
    rw [hl, List.nodup_cons] at hnodup
    cases rest with
    | nil => simp
    | cons u rest =>
      have hne : t ≠ u := fun h => hnodup.1 (by rw [h]; exact List.mem_cons_self)
      refine iff_of_false (by simp) fun h => hne ?_
      exact h t List.mem_cons_self u (List.mem_cons_of_mem _ List.mem_cons_self)

theorem reservedCode_eq_nil_iff {r : Draft.Resource} {op : Draft.Operation} :
    reservedCode r op = [] ↔
      ∀ response ∈ op.responses, codeSatisfies isReserved response = false := by
  unfold reservedCode
  cases h : op.responses.find? (codeSatisfies isReserved) with
  | none =>
    rw [List.find?_eq_none] at h
    simpa using h
  | some response =>
    refine iff_of_false (List.cons_ne_nil _ _) fun hall => ?_
    have hfound := List.find?_some h
    rw [hall response (List.mem_of_find?_eq_some h)] at hfound
    cases hfound

theorem contentType_eq_nil_iff {r : Draft.Resource} {op : Draft.Operation}
    {response : Draft.Response} :
    contentType r op response = [] ↔ ∀ label, response.type = some label →
      codeSatisfies hasNoContent response = true → label.name = Primitive.unit.name := by
  unfold contentType
  cases response.type with
  | none => simp
  | some label => simp

/-- The checks find nothing when they find nothing in any operation. -/
theorem codeErrors_eq_nil_iff {d : Draft} :
    codeErrors d = [] ↔ ∀ r ∈ d.resources, ∀ op ∈ r.operations,
      mixedSuccess r op = [] ∧ reservedCode r op = [] ∧
        ∀ response ∈ op.responses, contentType r op response = [] := by
  unfold codeErrors
  rw [List.append_eq_nil_iff, List.append_eq_nil_iff, flatMap_operationsOf_eq_nil_iff,
    flatMap_operationsOf_eq_nil_iff, List.flatMap_eq_nil_iff, forall_mem_responsesOf]
  constructor
  · rintro ⟨⟨mixed, reserved⟩, content⟩ r hr op hop
    exact ⟨mixed r hr op hop, reserved r hr op hop, content r hr op hop⟩
  · intro h
    exact ⟨⟨fun r hr op hop => (h r hr op hop).1, fun r hr op hop => (h r hr op hop).2.1⟩,
      fun r hr op hop => (h r hr op hop).2.2⟩

/-! ### The rule -/

theorem operationMethod_eq_nil_iff {r : Draft.Resource} {op : Draft.Operation} :
    operationMethod r op = [] ↔
      ∃ text, op.method = some text ∧ (Method.ofText? text).isSome := by
  unfold operationMethod
  cases op.method <;> simp [Option.isSome_iff_ne_none]

theorem responseType_eq_nil_iff {types : Declarations} {r : Draft.Resource}
    {op : Draft.Operation} {response : Draft.Response} :
    responseType types r op response = [] ↔ HasType types response.type := by
  unfold responseType HasType
  cases response.type <;> simp [Option.isSome_iff_ne_none]

theorem responseWarnings_eq_nil_iff {r : Draft.Resource} {op : Draft.Operation}
    {response : Draft.Response} :
    responseWarnings r op response = [] ↔ response.warnings = [] := by
  simp [responseWarnings]

/-- The rule stops exactly when it cannot read a code. -/
theorem responses_isOk_iff {d : Draft} :
    (responses d).isOk = true ↔ ∀ r ∈ d.resources, ∀ op ∈ r.operations,
      ∀ response ∈ op.responses, (readCode response.code).isOk = true := by
  unfold responses
  rw [isOk_bind_pure, unreadableCodes_eq, isOk_map, mapM_isOk_iff, forall_mem_responsesOf]
  simp only [aboutCode, isOk_map]

theorem responses_eq_ok_nil_iff {d : Draft} :
    responses d = .ok [] ↔
      (∀ r ∈ d.resources, ∀ op ∈ r.operations,
        (∃ text, op.method = some text ∧ (Method.ofText? text).isSome) ∧
        ∀ response ∈ op.responses, (∃ n, readCode response.code = .ok (some n)) ∧
          HasType d.declarations response.type ∧ response.warnings = []) ∧
      codeErrors d = [] := by
  simp only [responses, bind_eq_ok_iff, pure_eq_ok_iff, List.nil_eq, List.append_eq_nil_iff]
  constructor
  · rintro ⟨unreadable, hu, ⟨⟨⟨methods, rfl⟩, types⟩, codes⟩, warnings⟩
    rw [unreadableCodes_eq, mapM_flatten_eq_nil_iff, forall_mem_responsesOf] at hu
    rw [flatMap_operationsOf_eq_nil_iff] at methods
    rw [List.flatMap_eq_nil_iff, forall_mem_responsesOf] at types warnings
    refine ⟨fun r hr op hop => ⟨operationMethod_eq_nil_iff.1 (methods r hr op hop),
      fun response hres => ⟨aboutCode_eq_ok_nil_iff.1 (hu r hr op hop response hres),
        responseType_eq_nil_iff.1 (types r hr op hop response hres),
        responseWarnings_eq_nil_iff.1 (warnings r hr op hop response hres)⟩⟩, ?_⟩
    simpa using codes
  · rintro ⟨h, codes⟩
    refine ⟨[], ?_, ⟨⟨⟨?_, rfl⟩, ?_⟩, ?_⟩, ?_⟩
    · rw [unreadableCodes_eq, mapM_flatten_eq_nil_iff, forall_mem_responsesOf]
      intro r hr op hop response hres
      exact aboutCode_eq_ok_nil_iff.2 ((h r hr op hop).2 response hres).1
    · rw [flatMap_operationsOf_eq_nil_iff]
      intro r hr op hop
      exact operationMethod_eq_nil_iff.2 (h r hr op hop).1
    · rw [List.flatMap_eq_nil_iff, forall_mem_responsesOf]
      intro r hr op hop response hres
      exact responseType_eq_nil_iff.2 ((h r hr op hop).2 response hres).2.1
    · simpa using codes
    · rw [List.flatMap_eq_nil_iff, forall_mem_responsesOf]
      intro r hr op hop response hres
      exact responseWarnings_eq_nil_iff.2 ((h r hr op hop).2 response hres).2.2

end ServiceContract.Rule
