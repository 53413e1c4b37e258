import ServiceContract.Proofs.Rule.Offender
import ServiceContract.Proofs.Rule.Response

/-!
# The report about responses

What the rule for responses says comes in families: about methods, codes and types, about codes
and types together, and about warnings.  Each family goes through the operations in document order
and says about one operation what `reportOf` gives: it depends on the declared names, on the label
of the resource and on the operation alone.  One switch is shared by all operations: a code that is
no integer anywhere replaces the checks that depend on codes by the messages about such codes
(`responses_report_by_families`).
-/

namespace ServiceContract.Rule

open Outcome

/-! ### Codes -/

/-- The code is written as an integer, with more digits than can be read. -/
def HasLongCode (x : Draft.Response) : Prop :=
  Number.isSignedNumeral x.code = true ∧ Number.digitLimit < (Number.splitMinus x.code).2.length

instance : DecidablePred HasLongCode := fun _ => inferInstanceAs (Decidable (_ ∧ _))

/-- The code denotes an integer with the property. -/
def HasCode (p : Int → Prop) (x : Draft.Response) : Prop :=
  ∃ n, Number.readInteger x.code = .ok n ∧ p n

instance (p : Int → Prop) [DecidablePred p] : DecidablePred (HasCode p) := fun x =>
  match h : Number.readInteger x.code with
  | .ok n => decidable_of_iff (p n) (by simp [HasCode, h])
  | .error _ => .isFalse (by simp [HasCode, h])

theorem readCode_of_not_isSignedNumeral {code : Text} (h : Number.isSignedNumeral code = false) :
    readCode code = .ok none := by
  simp [readCode, h]

theorem exists_readCode {x : Draft.Response} (h : ¬ HasLongCode x)
    (hs : Number.isSignedNumeral x.code = true) : ∃ n, readCode x.code = .ok (some n) := by
  have hshort : ¬ Number.digitLimit < (Number.splitMinus x.code).2.length := fun hl => h ⟨hs, hl⟩
  have hread := Number.readInteger_of_isSignedNumeral hs
  rw [if_neg hshort] at hread
  exact ⟨_, readCode_eq_ok_some_iff.2 ⟨hs, hread⟩⟩

theorem codeSatisfies_iff {p : Int → Bool} {x : Draft.Response}
    (hs : Number.isSignedNumeral x.code = true) :
    codeSatisfies p x = true ↔ HasCode (fun n => p n = true) x := by
  unfold codeSatisfies readCode HasCode
  rw [if_pos hs]
  cases Number.readInteger x.code <;> simp [Except.map]

/-! ### One operation -/

/-- What there is to say about an operation and its responses, by families. -/
structure OperationReport where
  methods : List Text
  codes : List Text
  types : List Text
  mixed : List Text
  reserved : List Text
  content : List Text
  warnings : List Text

def reportOf (types : Declarations) (r : Draft.Resource) (op : Draft.Operation) :
    OperationReport where
  methods := operationMethod r op
  codes := (op.responses.filter fun x => !Number.isSignedNumeral x.code).map (unreadableCode r op)
  types := op.responses.flatMap (responseType types r op)
  mixed := mixedSuccess r op
  reserved := reservedCode r op
  content := op.responses.flatMap (contentType r op)
  warnings := op.responses.flatMap (responseWarnings r op)

/-- Of the resource only the label counts. -/
theorem reportOf_congr (types : Declarations) {r r' : Draft.Resource} (op : Draft.Operation)
    (h : r.type.text = r'.type.text) : reportOf types r op = reportOf types r' op := by
  have hlabel : resourceLabel r = resourceLabel r' := by rw [resourceLabel, h, resourceLabel]
  unfold reportOf operationMethod unreadableCode responseType mixedSuccess reservedCode contentType
    responseWarnings operationLabel
  rw [hlabel]

theorem length_operationMethod_le (r : Draft.Resource) (op : Draft.Operation) :
    (operationMethod r op).length ≤ 1 := by
  unfold operationMethod
  split
  · simp
  · split <;> simp

theorem length_mixedSuccess_le (r : Draft.Resource) (op : Draft.Operation) :
    (mixedSuccess r op).length ≤ 1 := by
  unfold mixedSuccess
  split <;> simp

theorem length_reservedCode_le (r : Draft.Resource) (op : Draft.Operation) :
    (reservedCode r op).length ≤ 1 := by
  unfold reservedCode
  split <;> simp

/-- One message about the first element with the property, and none if there is no such element. -/
def NamesFirst {α : Type} (p : α → Prop) (message : α → Text) (xs : List α)
    (messages : List Text) : Prop :=
  ((∀ x ∈ xs, ¬ p x) ∧ messages = []) ∨
    ∃ before x after, xs = before ++ x :: after ∧ (∀ y ∈ before, ¬ p y) ∧ p x ∧
      messages = [message x]

/-- The message about a reserved code. -/
def reservedResponse (r : Draft.Resource) (op : Draft.Operation) (x : Draft.Response) : Text :=
  operationLabel r op ++ " has a response with code[" ++ x.code ++
    "] - this code cannot be explicitly specified"

theorem reservedCode_namesFirst (r : Draft.Resource) {op : Draft.Operation}
    (hs : ∀ x ∈ op.responses, Number.isSignedNumeral x.code = true) :
    NamesFirst (HasCode fun n => n = 404 ∨ 500 ≤ n) (reservedResponse r op) op.responses
      (reservedCode r op) := by
  have hreserved : ∀ x ∈ op.responses, codeSatisfies isReserved x = true ↔
      HasCode (fun n => n = 404 ∨ 500 ≤ n) x := by
    intro x hx
    rw [codeSatisfies_iff (hs x hx)]
    simp [isReserved]
  unfold reservedCode
  cases hf : op.responses.find? (codeSatisfies isReserved) with
  | none =>
    rw [List.find?_eq_none] at hf
    exact Or.inl ⟨fun x hx hcode => hf x hx ((hreserved x hx).2 hcode), rfl⟩
  | some x =>
    obtain ⟨hx, before, after, hsplit, hbefore⟩ := List.find?_eq_some_iff_append.1 hf
    refine Or.inr ⟨before, x, after, hsplit, fun y hy hcode => ?_, ?_, rfl⟩
    · have hmem : y ∈ op.responses := by simp [hsplit, hy]
      have hnot := hbefore y hy
      rw [(hreserved y hmem).2 hcode] at hnot
      cases hnot
    · exact (hreserved x (List.mem_of_find?_eq_some hf)).1 hx

/-! ### All operations -/

/-- A family of messages, one operation after the other in document order. -/
def family (d : Draft) (part : OperationReport → List Text) : List Text :=
  d.resources.flatMap fun r => r.operations.flatMap fun op => part (reportOf d.declarations r op)

theorem flatMap_responsesOf (d : Draft)
    (check : Draft.Resource × Draft.Operation × Draft.Response → List Text) :
    (responsesOf d).flatMap check = d.resources.flatMap fun r =>
      r.operations.flatMap fun op => op.responses.flatMap fun x => check (r, op, x) := by
  simp only [responsesOf, flatMap_operationsOf, List.flatMap_assoc, List.flatMap_map]

/-- What is said about the code of a response that is not too long. -/
theorem aboutCode_eq {x : Draft.Resource × Draft.Operation × Draft.Response}
    (h : ¬ HasLongCode x.2.2) : aboutCode x =
      .ok (if !Number.isSignedNumeral x.2.2.code then [unreadableCode x.1 x.2.1 x.2.2] else []) := by
  unfold aboutCode
  cases hs : Number.isSignedNumeral x.2.2.code with
  | false =>
    rw [readCode_of_not_isSignedNumeral hs]
    rfl
  | true =>
    obtain ⟨n, hn⟩ := exists_readCode h hs
    rw [hn]
    rfl

/-- Where no code is too long, the codes that cannot be read are those that are no integers. -/
theorem unreadableCodes_eq_family {d : Draft} (h : ∀ x ∈ responsesOf d, ¬ HasLongCode x.2.2) :
    unreadableCodes d = .ok (family d (·.codes)) := by
  rw [unreadableCodes_eq, mapM_eq_ok_map fun x hx => aboutCode_eq (h x hx), Except.map,
    ← List.flatMap_def, flatMap_responsesOf]
  refine congrArg Except.ok (List.flatMap_congr fun r _ => List.flatMap_congr fun op _ => ?_)
  exact flatMap_eq_map_filter _ fun x _ => rfl

theorem family_codes_eq_nil_iff {d : Draft} : family d (·.codes) = [] ↔
    ∀ x ∈ responsesOf d, Number.isSignedNumeral x.2.2.code = true := by
  rw [forall_mem_responsesOf]
  simp [family, reportOf]

theorem codeErrors_eq (d : Draft) :
    codeErrors d = family d (·.mixed) ++ family d (·.reserved) ++ family d (·.content) := by
  unfold codeErrors
  rw [flatMap_responsesOf, flatMap_operationsOf, flatMap_operationsOf]
  rfl

/-- What the rule says where no code is too long; only the part that depends on codes looks at
more than one operation at a time. -/
theorem responses_eq {d : Draft} (h : ∀ x ∈ responsesOf d, ¬ HasLongCode x.2.2) :
    responses d = .ok (family d (·.methods) ++ family d (·.codes) ++ family d (·.types) ++
      (if (family d (·.codes)).isEmpty then codeErrors d else []) ++ family d (·.warnings)) := by
  unfold responses
  rw [unreadableCodes_eq_family h, flatMap_responsesOf, flatMap_responsesOf, flatMap_operationsOf]
  rfl

theorem responses_eq_of_integers {d : Draft} (h : ∀ x ∈ responsesOf d, ¬ HasLongCode x.2.2)
    (hs : ∀ x ∈ responsesOf d, Number.isSignedNumeral x.2.2.code = true) :
    responses d = .ok (family d (·.methods) ++ family d (·.types) ++ family d (·.mixed) ++
      family d (·.reserved) ++ family d (·.content) ++ family d (·.warnings)) := by
  rw [responses_eq h, family_codes_eq_nil_iff.2 hs, codeErrors_eq]
  simp

theorem responses_eq_of_not_integer {d : Draft} (h : ∀ x ∈ responsesOf d, ¬ HasLongCode x.2.2)
    (hs : ∃ x ∈ responsesOf d, Number.isSignedNumeral x.2.2.code = false) :
    responses d = .ok (family d (·.methods) ++ family d (·.codes) ++ family d (·.types) ++
      family d (·.warnings)) := by
  have hne : family d (·.codes) ≠ [] := by
    obtain ⟨x, hx, hnot⟩ := hs
    intro hnil
    rw [family_codes_eq_nil_iff.1 hnil x hx] at hnot
    cases hnot
  rw [responses_eq h]
  simp [hne]

/-- Where no code is too long to be read, the rule for responses yields a report.  If some code is
no integer, it is made of the families about methods, codes, types and warnings, and otherwise of
those about methods, types, codes and types together, and warnings.  A family has at most one
message of its kind about the method, the successful types and the reserved codes of an operation,
the last about the first reserved code; and what it says about an operation depends on the declared
names, the label of the resource and the operation alone. -/
theorem responses_report_by_families (d : Draft)
    (h : ∀ x ∈ responsesOf d, ¬ HasLongCode x.2.2) :
    ((∃ x ∈ responsesOf d, Number.isSignedNumeral x.2.2.code = false) →
      responses d = .ok (family d (·.methods) ++ family d (·.codes) ++ family d (·.types) ++
        family d (·.warnings))) ∧
    ((∀ x ∈ responsesOf d, Number.isSignedNumeral x.2.2.code = true) →
      responses d = .ok (family d (·.methods) ++ family d (·.types) ++ family d (·.mixed) ++
        family d (·.reserved) ++ family d (·.content) ++ family d (·.warnings)) ∧
      ∀ r ∈ d.resources, ∀ op ∈ r.operations,
        NamesFirst (HasCode fun n => n = 404 ∨ 500 ≤ n) (reservedResponse r op) op.responses
          (reportOf d.declarations r op).reserved) ∧
    ∀ types r op, (reportOf types r op).methods.length ≤ 1 ∧
      (reportOf types r op).mixed.length ≤ 1 ∧ (reportOf types r op).reserved.length ≤ 1 ∧
      ∀ r', r'.type.text = r.type.text → reportOf types r' op = reportOf types r op := by
  refine ⟨responses_eq_of_not_integer h, fun hs => ⟨responses_eq_of_integers h hs, ?_⟩, ?_⟩
  · intro r hr op hop
    exact reservedCode_namesFirst r (forall_mem_responsesOf.1 hs r hr op hop)
  · intro types r op
    exact ⟨length_operationMethod_le r op, length_mixedSuccess_le r op,
      length_reservedCode_le r op, fun r' h => reportOf_congr types op h⟩

/-- A draft with two resources, whose three operations have faults of all families but that of
codes. -/
def museumDraft : Draft where
  name := some "Museum"
  key := none
  nameSpace := none
  description := none
  baseUrl := none
  imports := []
  headers := []
  enums := []
  unions := []
  models := [⟨"work", none, []⟩, ⟨"room", none, []⟩]
  resources := [
    ⟨Label.ofText "work", "/works", none,
      [⟨some "GET", "/works", none, none, [],
        [⟨"200", some (Label.ofText "work"), none, []⟩,
          ⟨"201", some (Label.ofText "[work]"), none, []⟩,
          ⟨"404", some (Label.ofText "unit"), none, []⟩, ⟨"503", none, none, []⟩], []⟩,
      ⟨none, "/works/:id", none, none, [],
        [⟨"204", some (Label.ofText "work"), none, []⟩], []⟩]⟩,
    ⟨Label.ofText "room", "/rooms", none,
      [⟨some "FETCH", "/rooms", none, none, [],
        [⟨"-0", some (Label.ofText "rom"), none, ["Unrecognized element[x]"]⟩], []⟩]⟩]

theorem responses_museumDraft :
    (∀ x ∈ responsesOf museumDraft, ¬ HasLongCode x.2.2) ∧
    (∀ x ∈ responsesOf museumDraft, Number.isSignedNumeral x.2.2.code = true) ∧
    responses museumDraft = .ok (family museumDraft (·.methods) ++ family museumDraft (·.types) ++
      family museumDraft (·.mixed) ++ family museumDraft (·.reserved) ++
      family museumDraft (·.content) ++ family museumDraft (·.warnings)) ∧
    [OperationReport.methods, (·.codes), (·.types), (·.mixed), (·.reserved), (·.content),
      (·.warnings)].map (fun part => (family museumDraft part).length) = [2, 0, 2, 1, 1, 1, 1] := by
  have hshort : ∀ x ∈ responsesOf museumDraft, ¬ HasLongCode x.2.2 := by decide +kernel
  have hintegers : ∀ x ∈ responsesOf museumDraft,
      Number.isSignedNumeral x.2.2.code = true := by decide +kernel
  refine ⟨hshort, hintegers, ?_, by decide +kernel⟩
  exact ((responses_report_by_families museumDraft hshort).2.1 hintegers).1

end ServiceContract.Rule
