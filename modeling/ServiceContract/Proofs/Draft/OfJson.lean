import ServiceContract.Draft.OfJson
import ServiceContract.Proofs.Outcome

/-!
# What a draft is read from

The objects of a document that become fields, operations and parameters, and the codes that its
responses stand under.  `Draft.ofJson` succeeds exactly when the bounds of all fields and
parameters are in the range of doubles (`ofJson_isOk_iff`); the lemmas `…Of_eq_ok_iff` say what
each part of the draft then is.
-/

namespace ServiceContract.Draft

open Outcome

variable {members : Json.Members}

/-! ### The objects of a document -/

/-- The objects that are read as fields of models. -/
def fieldObjects (members : Json.Members) : List Json.Members :=
  (namedObjectsOf members "models").flatMap fun model => objectsOf model.2 "fields"

/-- The objects that are read as operations. -/
def operationObjects (members : Json.Members) : List Json.Members :=
  (namedObjectsOf members "resources").flatMap fun resource => objectsOf resource.2 "operations"

/-- The objects that are read as parameters of operations. -/
def parameterObjects (members : Json.Members) : List Json.Members :=
  (operationObjects members).flatMap fun op => objectsOf op "parameters"

/-- The codes that the responses of an operation stand under, with the responses. -/
def responseMembers (op : Json.Members) : Json.Members :=
  ((op.get? "responses").getD .null).members

theorem textOf_eq_some_iff {key t : Text} :
    textOf members key = some t ↔ members.get? key = some (.string t) := by
  unfold textOf
  rw [Option.bind_eq_some_iff]
  constructor
  · rintro ⟨value, hv, ht⟩
    cases value <;> simp [Json.Value.text?] at ht
    rw [hv, ht]
  · intro h
    exact ⟨.string t, h, rfl⟩

theorem typeOf_eq_some_iff {label : Label} :
    typeOf members = some label ↔ ∃ t, members.get? "type" = some (.string t) ∧
      t.isEmptyOrBlank = false ∧ label = Label.ofText t := by
  unfold typeOf
  rw [Option.bind_eq_some_iff]
  constructor
  · rintro ⟨value, hv, hl⟩
    cases value with
    | string t =>
      by_cases hb : t.isEmptyOrBlank = true
      · simp [labelOf?, hb] at hl
      · rw [Bool.not_eq_true] at hb
        have hlabel : Label.ofText t = label := by simpa [labelOf?, hb] using hl
        exact ⟨t, hv, hb, hlabel.symm⟩
    | _ => simp [labelOf?] at hl
  · rintro ⟨t, hv, hb, rfl⟩
    exact ⟨.string t, hv, by simp [labelOf?, hb]⟩

theorem typeOf_eq_none (h : members.get? "type" = none) : typeOf members = none := by
  simp [typeOf, h]

/-- The type of a response is the one that it has, or `unit` if it has none at all and stands under
a code without content. -/
theorem responseTypeOf_eq_some_iff {code : Text} {label : Label} :
    responseTypeOf code members = some label ↔ typeOf members = some label ∨
      members.get? "type" = none ∧ code ∈ codesWithoutContent ∧
        label = Label.ofText Primitive.unit.name := by
  unfold responseTypeOf
  by_cases ht : members.get? "type" = none
  · by_cases hc : code ∈ codesWithoutContent <;> simp [ht, hc, typeOf_eq_none ht, eq_comm]
  · simp [ht]

/-! ### Parts that depend on one key -/

section

variable {o o' : Json.Members} {key : Text}

theorem textOf_congr (h : o'.get? key = o.get? key) : textOf o' key = textOf o key := by
  rw [textOf, h, textOf]

theorem objectsOf_congr (h : o'.get? key = o.get? key) : objectsOf o' key = objectsOf o key := by
  rw [objectsOf, h, objectsOf]

theorem namedObjectsOf_congr (h : o'.get? key = o.get? key) :
    namedObjectsOf o' key = namedObjectsOf o key := by
  rw [namedObjectsOf, h, namedObjectsOf]

theorem defaultOf_congr (h : o'.get? key = o.get? key) : defaultOf o' key = defaultOf o key := by
  rw [defaultOf, h, defaultOf]

theorem typeOf_congr (h : o'.get? "type" = o.get? "type") : typeOf o' = typeOf o := by
  rw [typeOf, h, typeOf]

theorem requiredOf_congr (h : o'.get? "required" = o.get? "required") :
    requiredOf o' = requiredOf o := by
  rw [requiredOf, h, requiredOf]

end

/-! ### Bounds -/

/-- A bound fails to be read when it is an integer that no double is near to. -/
theorem boundOf_isOk_eq_false_iff {key : Text} :
    (boundOf members key).isOk = false ↔
      ∃ n, members.get? key = some (.int n) ∧ Number.Binary64.ofInt? n = none := by
  unfold boundOf
  split
  · simp_all
  · rename_i n hn
    cases h : Number.Binary64.ofInt? n <;> simp [hn, h]
  · rename_i hint
    simp only [isOk_eq_false_iff, reduceCtorEq, exists_false, false_iff, not_exists, not_and]
    intro n hn
    exact absurd hn (hint n)

/-- Both bounds of an element can be read. -/
def BoundsFit (members : Json.Members) : Prop :=
  (boundOf members "minimum").isOk = true ∧ (boundOf members "maximum").isOk = true

theorem fieldOf_eq_ok_iff {f : Field} :
    fieldOf members = .ok f ↔ ∃ minimum, boundOf members "minimum" = .ok minimum ∧
      ∃ maximum, boundOf members "maximum" = .ok maximum ∧
      f = ⟨textOf members "name", typeOf members, requiredOf members,
        defaultOf members "default", textOf members "description", defaultOf members "example",
        minimum, maximum, fieldTable.warnings members ++ labelWarnings (typeOf members)⟩ := by
  simp only [fieldOf, bind_eq_ok_iff, pure_eq_ok_iff]

theorem fieldOf_isOk_iff : (fieldOf members).isOk = true ↔ BoundsFit members := by
  simp only [fieldOf, isOk_bind_iff, isOk_pure, and_true, exists_and_right, ← isOk_iff, BoundsFit]

theorem parameterOf_eq_ok_iff {p : Parameter} :
    parameterOf members = .ok p ↔ ∃ minimum, boundOf members "minimum" = .ok minimum ∧
      ∃ maximum, boundOf members "maximum" = .ok maximum ∧
      p = ⟨textOf members "name", typeOf members, requiredOf members,
        defaultOf members "default", textOf members "description", minimum, maximum⟩ := by
  simp only [parameterOf, bind_eq_ok_iff, pure_eq_ok_iff]

theorem parameterOf_isOk_iff : (parameterOf members).isOk = true ↔ BoundsFit members := by
  simp only [parameterOf, isOk_bind_iff, isOk_pure, and_true, exists_and_right, ← isOk_iff,
    BoundsFit]

/-! ### Models and resources -/

theorem modelOf_eq_ok_iff {name : Text} {m : Model} :
    modelOf name members = .ok m ↔
      ∃ fields, (objectsOf members "fields").mapM fieldOf = .ok fields ∧
        m = ⟨name, textOf members "description", fields⟩ := by
  simp only [modelOf, bind_eq_ok_iff, pure_eq_ok_iff]

theorem modelOf_isOk_iff {name : Text} :
    (modelOf name members).isOk = true ↔ ∀ f ∈ objectsOf members "fields", BoundsFit f := by
  unfold modelOf
  rw [mapM_return_isOk_iff]
  simp only [fieldOf_isOk_iff]

theorem operationOf_eq_ok_iff {path : Text} {op : Operation} :
    operationOf path members = .ok op ↔ ∃ parameters,
      (objectsOf members "parameters").mapM parameterOf = .ok parameters ∧
      op = ⟨textOf members "method", Path.join path (textOf members "path"),
        textOf members "description", bodyOf (members.get? "body"), parameters,
        (responseMembers members).map fun member => responseOf member.1 member.2,
        operationTable.warnings members ++
          (objectsOf members "parameters").flatMap parameterWarnings⟩ := by
  simp only [operationOf, bind_eq_ok_iff, pure_eq_ok_iff]
  rfl

theorem operationOf_isOk_iff {path : Text} :
    (operationOf path members).isOk = true ↔
      ∀ p ∈ objectsOf members "parameters", BoundsFit p := by
  unfold operationOf
  rw [mapM_return_isOk_iff]
  simp only [parameterOf_isOk_iff]

theorem responseOf_code (code : Text) (value : Json.Value) :
    (responseOf code value).code = code := by
  unfold responseOf
  split <;> rfl

theorem resourceOf_eq_ok_iff {name : Text} {r : Resource} :
    resourceOf name members = .ok r ↔ ∃ operations,
      (objectsOf members "operations").mapM (operationOf (resourcePathOf name members)) =
        .ok operations ∧
      r = ⟨Label.ofText name, resourcePathOf name members, textOf members "description",
        operations⟩ := by
  simp only [resourceOf, bind_eq_ok_iff, pure_eq_ok_iff]

theorem resourceOf_isOk_iff {name : Text} :
    (resourceOf name members).isOk = true ↔ ∀ op ∈ objectsOf members "operations",
      ∀ p ∈ objectsOf op "parameters", BoundsFit p := by
  unfold resourceOf
  rw [mapM_return_isOk_iff]
  simp only [operationOf_isOk_iff]

/-! ### Drafts -/

theorem ofJson_eq_ok_iff {d : Draft} :
    ofJson members = .ok d ↔ ∃ models, (namedObjectsOf members "models").mapM
        (fun model => modelOf model.1 model.2) = .ok models ∧
      ∃ resources, (namedObjectsOf members "resources").mapM
        (fun resource => resourceOf resource.1 resource.2) = .ok resources ∧
      d = ⟨textOf members "name", textOf members "key", textOf members "namespace",
        textOf members "description", textOf members "base_url",
        (objectsOf members "imports").map importOf, (objectsOf members "headers").map headerOf,
        (namedObjectsOf members "enums").map fun enum => enumOf enum.1 enum.2,
        (namedObjectsOf members "unions").map fun union => unionOf union.1 union.2,
        models, resources⟩ := by
  simp only [ofJson, bind_eq_ok_iff, pure_eq_ok_iff]

/-- A draft can be read exactly when the bounds of all fields and parameters can. -/
theorem ofJson_isOk_iff :
    (ofJson members).isOk = true ↔
      ∀ o ∈ fieldObjects members ++ parameterObjects members, BoundsFit o := by
  simp only [ofJson, isOk_bind_iff, isOk_pure, and_true, exists_and_right, ← isOk_iff,
    mapM_isOk_iff, modelOf_isOk_iff, resourceOf_isOk_iff]
  simp only [fieldObjects, parameterObjects, operationObjects, List.forall_mem_append,
    List.forall_mem_flatMap, Prod.forall]

/-- A statement about all fields of a draft, as one about the objects that they are read from. -/
theorem forall_field_iff {d : Draft} {p : Field → Prop} {q : Json.Members → Prop}
    (h : ofJson members = .ok d) (hpq : ∀ o f, fieldOf o = .ok f → (p f ↔ q o)) :
    (∀ m ∈ d.models, ∀ f ∈ m.fields, p f) ↔ ∀ o ∈ fieldObjects members, q o := by
  obtain ⟨models, hmodels, resources, -, rfl⟩ := ofJson_eq_ok_iff.1 h
  rw [fieldObjects, List.forall_mem_flatMap]
  refine forall_mem_mapM_iff hmodels fun model m hm => ?_
  obtain ⟨fields, hfields, rfl⟩ := modelOf_eq_ok_iff.1 hm
  exact forall_mem_mapM_iff hfields hpq

/-- A statement about all operations of a draft, as one about the objects that they are read
from. -/
theorem forall_operation_iff {d : Draft} {p : Operation → Prop} {q : Json.Members → Prop}
    (h : ofJson members = .ok d) (hpq : ∀ path o op, operationOf path o = .ok op → (p op ↔ q o)) :
    (∀ r ∈ d.resources, ∀ op ∈ r.operations, p op) ↔ ∀ o ∈ operationObjects members, q o := by
  obtain ⟨models, -, resources, hresources, rfl⟩ := ofJson_eq_ok_iff.1 h
  rw [operationObjects, List.forall_mem_flatMap]
  refine forall_mem_mapM_iff hresources fun resource r hr => ?_
  obtain ⟨operations, hoperations, rfl⟩ := resourceOf_eq_ok_iff.1 hr
  exact forall_mem_mapM_iff hoperations (hpq _)

/-- The codes of a draft are those that the responses of the document stand under. -/
theorem forall_code_iff {d : Draft} {p : Text → Prop} (h : ofJson members = .ok d) :
    (∀ r ∈ d.resources, ∀ op ∈ r.operations, ∀ response ∈ op.responses, p response.code) ↔
      ∀ op ∈ operationObjects members, ∀ member ∈ responseMembers op, p member.1 := by
  refine forall_operation_iff h fun path object op hop => ?_
  obtain ⟨parameters, -, rfl⟩ := operationOf_eq_ok_iff.1 hop
  simp only [List.forall_mem_map, responseOf_code]

end ServiceContract.Draft
