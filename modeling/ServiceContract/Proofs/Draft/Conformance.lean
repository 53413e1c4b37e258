import ServiceContract.Proofs.Draft.Label

/-!
# Documents that conform to the tables

Fields, parameters, operations and responses have tables of their elements.  A document conforms
when each of these objects has members of its table only, all responses are objects, and no type
is the bare word `map`.  Warnings are drawn at four places, and those of parameters end up with
their operation; a draft is without warnings exactly when its document conforms
(`unwarned_iff_conforms`).
-/

namespace ServiceContract

namespace Draft

open Outcome

variable {o : Json.Members}

/-! ### Elements -/

/-- Every member has a key of the table and is null or of a kind that the table allows there. -/
def Table.Admits (table : Table) (o : Json.Members) : Prop :=
  ∀ member ∈ o, ∃ allowed, table.lookup member.1 = some allowed ∧
    (member.2.kind = .null ∨ member.2.kind ∈ allowed)

/-- The type of the element is the bare word `map`, with or without blanks around it. -/
def IsBareMap (o : Json.Members) : Prop :=
  ∃ t, o.get? "type" = some (.string t) ∧ t.trim = "map"

theorem Table.warning?_eq_none_iff {table : Table} {key : Text} {value : Json.Value} :
    table.warning? key value = none ↔ ∃ allowed, table.lookup key = some allowed ∧
      (value.kind = .null ∨ value.kind ∈ allowed) := by
  unfold Table.warning?
  cases table.lookup key with
  | none => simp
  | some allowed => simp [or_iff_not_imp_left]

theorem Table.warnings_eq_nil_iff {table : Table} :
    table.warnings o = [] ↔ table.Admits o := by
  rw [Table.warnings, List.filterMap_eq_nil_iff]
  simp only [Table.warning?_eq_none_iff, Table.Admits]

theorem labelWarnings_eq_nil_iff {type : Option Label} :
    labelWarnings type = [] ↔ ∀ label, type = some label → label.text ≠ "map" := by
  cases type with
  | none => simp [labelWarnings]
  | some label => simp [labelWarnings, Label.warnings]

theorem labelWarnings_typeOf_eq_nil_iff : labelWarnings (typeOf o) = [] ↔ ¬ IsBareMap o := by
  rw [labelWarnings_eq_nil_iff]
  constructor
  · -- a blank text is no label, and no `map` either
    rintro h ⟨t, ht, hmap⟩
    by_cases hb : t.isEmptyOrBlank = true
    · rw [Text.trim_of_isEmptyOrBlank hb] at hmap
      exact absurd hmap (by decide)
    · rw [Bool.not_eq_true] at hb
      exact h (Label.ofText t) (typeOf_eq_some_iff.2 ⟨t, ht, hb, rfl⟩) hmap
  · rintro h label hl hmap
    obtain ⟨t, ht, -, rfl⟩ := typeOf_eq_some_iff.1 hl
    exact h ⟨t, ht, hmap⟩

theorem labelWarnings_responseTypeOf_eq_nil_iff {code : Text} :
    labelWarnings (responseTypeOf code o) = [] ↔ ¬ IsBareMap o := by
  unfold responseTypeOf
  split
  · -- the type is supplied, and `unit` draws no warning
    rename_i h
    have habsent : o.get? "type" = none := by simpa using (Bool.and_eq_true_iff.1 h).1
    have hbare : ¬ IsBareMap o := by
      rintro ⟨t, ht, -⟩
      rw [habsent] at ht
      cases ht
    exact iff_of_true (by decide) hbare
  · exact labelWarnings_typeOf_eq_nil_iff

/-! ### Documents -/

/-- An object that is read as an operation, with the objects in it, conforms to the tables. -/
structure OperationConforms (o : Json.Members) : Prop where
  elements : operationTable.Admits o
  parameters : ∀ p ∈ objectsOf o "parameters", parameterTable.Admits p ∧ ¬ IsBareMap p
  responses : ∀ member ∈ responseMembers o, ∃ response, member.2 = .object response ∧
    responseTable.Admits response ∧ ¬ IsBareMap response

/-- All objects of a document that are read as fields, operations, parameters or responses conform
to the tables. -/
structure Conforms (document : Json.Members) : Prop where
  fields : ∀ o ∈ fieldObjects document, fieldTable.Admits o ∧ ¬ IsBareMap o
  operations : ∀ o ∈ operationObjects document, OperationConforms o

/-- An operation without warnings, neither its own ones nor those of its responses. -/
def Operation.Unwarned (op : Operation) : Prop :=
  op.warnings = [] ∧ ∀ response ∈ op.responses, response.warnings = []

/-- A draft none of whose elements carries a warning. -/
structure Unwarned (d : Draft) : Prop where
  fields : ∀ m ∈ d.models, ∀ f ∈ m.fields, f.warnings = []
  operations : ∀ r ∈ d.resources, ∀ op ∈ r.operations, op.Unwarned

theorem fieldOf_warnings_eq_nil_iff {f : Field} (h : fieldOf o = .ok f) :
    f.warnings = [] ↔ fieldTable.Admits o ∧ ¬ IsBareMap o := by
  obtain ⟨_, -, _, -, rfl⟩ := fieldOf_eq_ok_iff.1 h
  rw [List.append_eq_nil_iff, Table.warnings_eq_nil_iff, labelWarnings_typeOf_eq_nil_iff]

theorem parameterWarnings_eq_nil_iff :
    parameterWarnings o = [] ↔ parameterTable.Admits o ∧ ¬ IsBareMap o := by
  rw [parameterWarnings, List.map_eq_nil_iff, List.append_eq_nil_iff, Table.warnings_eq_nil_iff,
    labelWarnings_typeOf_eq_nil_iff]

theorem responseOf_warnings_eq_nil_iff {code : Text} {value : Json.Value} :
    (responseOf code value).warnings = [] ↔ ∃ response, value = .object response ∧
      responseTable.Admits response ∧ ¬ IsBareMap response := by
  cases value with
  | object response =>
    simp only [responseOf, List.append_eq_nil_iff, Table.warnings_eq_nil_iff,
      labelWarnings_responseTypeOf_eq_nil_iff, Json.Value.object.injEq, exists_eq_left']
  | _ => simp [responseOf]

theorem operationOf_unwarned_iff {path : Text} {op : Operation} (h : operationOf path o = .ok op) :
    op.Unwarned ↔ OperationConforms o := by
  obtain ⟨parameters, -, rfl⟩ := operationOf_eq_ok_iff.1 h
  simp only [Operation.Unwarned, List.append_eq_nil_iff, Table.warnings_eq_nil_iff,
    List.flatMap_eq_nil_iff, parameterWarnings_eq_nil_iff, List.forall_mem_map,
    responseOf_warnings_eq_nil_iff]
  constructor
  · rintro ⟨⟨elements, parameters⟩, responses⟩
    exact ⟨elements, parameters, responses⟩
  · rintro ⟨elements, parameters, responses⟩
    exact ⟨⟨elements, parameters⟩, responses⟩

/-- A draft is without warnings exactly when the document that it is read from conforms. -/
theorem unwarned_iff_conforms {document : Json.Members} {d : Draft} (h : ofJson document = .ok d) :
    d.Unwarned ↔ Conforms document := by
  have hfields := forall_field_iff h fun o f hf => fieldOf_warnings_eq_nil_iff hf
  have hoperations := forall_operation_iff h fun path o op hop => operationOf_unwarned_iff hop
  constructor
  · intro hd
    exact ⟨hfields.1 hd.fields, hoperations.1 hd.operations⟩
  · intro hdoc
    exact ⟨hfields.2 hdoc.fields, hoperations.2 hdoc.operations⟩

end Draft

end ServiceContract
