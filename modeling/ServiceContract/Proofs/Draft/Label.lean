import ServiceContract.Proofs.Draft.OfJson
import ServiceContract.Proofs.Text.Blank

/-!
# Labels of drafts

A label keeps its text without the blanks around it, and reading that text again gives the same
label (`Label.isSpelled_ofText`).  All labels of a draft that was read from a document are such
labels (`ofJson_spelled`), so what is said about a label holds of its text as well.
-/

namespace ServiceContract

open Outcome

/-! ### Labels and their texts -/

/-- A label that its text spells. -/
def Label.IsSpelled (label : Label) : Prop := Label.ofText label.text = label

theorem Label.text_ofText (t : Text) : (Label.ofText t).text = t.trim := rfl

theorem Label.isSpelled_ofText (t : Text) : (Label.ofText t).IsSpelled := by
  unfold Label.IsSpelled
  rw [Label.text_ofText]
  simp only [Label.ofText, Text.trim_trim]

/-- What a spelled label denotes, its text denotes. -/
theorem Declarations.resolveText?_of_isSpelled (types : Declarations) {label : Label}
    (h : label.IsSpelled) : types.resolveText? label.text = types.resolve? label := by
  rw [Declarations.resolveText?, h]

namespace Draft

variable {members : Json.Members} {label : Label}

theorem isSpelled_of_typeOf (h : typeOf members = some label) : label.IsSpelled := by
  obtain ⟨t, -, -, rfl⟩ := typeOf_eq_some_iff.1 h
  exact Label.isSpelled_ofText t

theorem isSpelled_of_responseTypeOf {code : Text} (h : responseTypeOf code members = some label) :
    label.IsSpelled := by
  rcases responseTypeOf_eq_some_iff.1 h with h | ⟨-, -, rfl⟩
  · exact isSpelled_of_typeOf h
  · exact Label.isSpelled_ofText _

/-! ### The labels of a draft -/

/-- An operation all of whose labels are spelled by their texts. -/
structure Operation.Spelled (op : Operation) : Prop where
  body : ∀ b label, op.body = some b → b.type = some label → label.IsSpelled
  parameters : ∀ p ∈ op.parameters, ∀ label, p.type = some label → label.IsSpelled
  responses : ∀ r ∈ op.responses, ∀ label, r.type = some label → label.IsSpelled

/-- A draft all of whose labels are spelled by their texts. -/
structure Spelled (d : Draft) : Prop where
  headers : ∀ h ∈ d.headers, ∀ label, h.type = some label → label.IsSpelled
  unionMembers : ∀ u ∈ d.unions, ∀ m ∈ u.members, ∀ label, m.type = some label → label.IsSpelled
  fields : ∀ m ∈ d.models, ∀ f ∈ m.fields, ∀ label, f.type = some label → label.IsSpelled
  resources : ∀ r ∈ d.resources, r.type.IsSpelled
  operations : ∀ r ∈ d.resources, ∀ op ∈ r.operations, op.Spelled

theorem isSpelled_of_bodyOf {value : Option Json.Value} {b : Body} (h : bodyOf value = some b)
    (hl : b.type = some label) : label.IsSpelled := by
  unfold bodyOf at h
  split at h
  · simp at h
  · simp at h
  · rw [← Option.some.inj h] at hl
    exact isSpelled_of_typeOf hl
  · rw [← Option.some.inj h] at hl
    simp at hl

theorem isSpelled_of_responseOf {code : Text} {value : Json.Value}
    (h : (responseOf code value).type = some label) : label.IsSpelled := by
  unfold responseOf at h
  split at h
  · exact isSpelled_of_responseTypeOf h
  · simp at h

theorem operationOf_spelled {path : Text} {op : Operation}
    (h : operationOf path members = .ok op) : op.Spelled := by
  obtain ⟨parameters, hp, rfl⟩ := operationOf_eq_ok_iff.1 h
  refine ⟨fun b label hb hl => isSpelled_of_bodyOf hb hl, fun p hmem label hl => ?_,
    fun r hmem label hl => ?_⟩
  · obtain ⟨o, -, ho⟩ := exists_of_mem_mapM hp hmem
    obtain ⟨_, -, _, -, rfl⟩ := parameterOf_eq_ok_iff.1 ho
    exact isSpelled_of_typeOf hl
  · obtain ⟨member, -, rfl⟩ := List.mem_map.1 hmem
    exact isSpelled_of_responseOf hl

/-- In a draft that was read from a document, every label is spelled by its text. -/
theorem ofJson_spelled {d : Draft} (h : ofJson members = .ok d) : d.Spelled := by
  obtain ⟨models, hm, resources, hr, rfl⟩ := ofJson_eq_ok_iff.1 h
  exact {
    headers := by
      intro x hx label hl
      obtain ⟨o, -, rfl⟩ := List.mem_map.1 hx
      exact isSpelled_of_typeOf hl
    unionMembers := by
      intro u hu m hmem label hl
      obtain ⟨o, -, rfl⟩ := List.mem_map.1 hu
      obtain ⟨o', -, rfl⟩ := List.mem_map.1 hmem
      exact isSpelled_of_typeOf hl
    fields := by
      intro m hmem f hf label hl
      obtain ⟨o, -, ho⟩ := exists_of_mem_mapM hm hmem
      obtain ⟨fields, hfields, rfl⟩ := modelOf_eq_ok_iff.1 ho
      obtain ⟨o', -, ho'⟩ := exists_of_mem_mapM hfields hf
      obtain ⟨_, -, _, -, rfl⟩ := fieldOf_eq_ok_iff.1 ho'
      exact isSpelled_of_typeOf hl
    resources := by
      intro r hmem
      obtain ⟨o, -, ho⟩ := exists_of_mem_mapM hr hmem
      obtain ⟨_, -, rfl⟩ := resourceOf_eq_ok_iff.1 ho
      exact Label.isSpelled_ofText _
    operations := by
      intro r hmem op hop
      obtain ⟨o, -, ho⟩ := exists_of_mem_mapM hr hmem
      obtain ⟨operations, hops, rfl⟩ := resourceOf_eq_ok_iff.1 ho
      obtain ⟨o', -, ho'⟩ := exists_of_mem_mapM hops hop
      exact operationOf_spelled ho' }

end Draft

end ServiceContract
