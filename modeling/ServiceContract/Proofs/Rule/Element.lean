import Mathlib.Data.List.Basic
import ServiceContract.Proofs.Inquiry
import ServiceContract.Rule.Declaration
import ServiceContract.Rule.Import
import ServiceContract.Rule.PathParameter

/-!
# What the rules for elements ask for

A rule has nothing to say exactly when every element that it looks at is as it should be.  Each
`…_eq_nil_iff` states this condition for one rule, over the elements of the draft and without a
word about messages.
-/

namespace ServiceContract.Rule

open Outcome

/-- The type of an element is there and resolves. -/
def HasType (types : Declarations) (type : Option Label) : Prop :=
  ∃ label, type = some label ∧ (types.resolve? label).isSome

/-! ### Names, headers and fields -/

theorem enums_eq_nil_iff {d : Draft} :
    enums d = [] ↔ ∀ e ∈ d.enums, ∀ v ∈ e.values, v.name.isSome := by
  simp [enums, Option.isSome_iff_ne_none]

theorem unions_eq_nil_iff {d : Draft} :
    unions d = [] ↔ ∀ u ∈ d.unions, ∀ m ∈ u.members, m.type.isSome := by
  simp [unions, Option.isSome_iff_ne_none]

theorem headers_eq_nil_iff {d : Draft} :
    headers d = [] ↔ ∀ h ∈ d.headers, h.name.isSome ∧ h.type.isSome := by
  simp [headers, Option.isSome_iff_ne_none, forall_and]

theorem fieldType_eq_nil_iff {types : Declarations} {m : Draft.Model} {name : Text}
    {f : Draft.Field} : fieldType types m name f = [] ↔ HasType types f.type := by
  unfold fieldType HasType
  cases f.type with
  | none => simp
  | some label => simp [Option.isSome_iff_ne_none]

theorem aboutNamedFields_eq_nil_iff {d : Draft}
    {check : Draft.Model → Text → Draft.Field → List Text} :
    aboutNamedFields d check = [] ↔
      ∀ m ∈ d.models, ∀ f ∈ m.fields, ∀ name, f.name = some name → check m name f = [] := by
  simp only [aboutNamedFields, List.flatMap_eq_nil_iff]
  refine forall₂_congr fun m _ => forall₂_congr fun f _ => ?_
  cases f.name <;> simp

theorem fields_eq_nil_iff {d : Draft} :
    fields d = [] ↔ ∀ m ∈ d.models, ∀ f ∈ m.fields,
      f.name.isSome ∧ HasType d.declarations f.type ∧ f.warnings = [] := by
  simp only [fields, List.append_eq_nil_iff, aboutNamedFields_eq_nil_iff, fieldType_eq_nil_iff,
    List.flatMap_eq_nil_iff, List.map_eq_nil_iff, List.filter_eq_nil_iff]
  constructor
  · rintro ⟨⟨types, names⟩, warnings⟩ m hm f hf
    have named : f.name.isSome := by
      simpa [Option.isSome_iff_ne_none] using names m hm f hf
    obtain ⟨name, hn⟩ := Option.isSome_iff_exists.1 named
    refine ⟨named, types m hm f hf name hn, ?_⟩
    simpa [fieldWarnings] using warnings m hm f hf name hn
  · intro h
    refine ⟨⟨fun m hm f hf name _ => (h m hm f hf).2.1, fun m hm f hf => ?_⟩,
      fun m hm f hf name _ => ?_⟩
    · simpa [Option.isSome_iff_ne_none] using (h m hm f hf).1
    · simp [fieldWarnings, (h m hm f hf).2.2]

/-! ### Operations -/

theorem mem_operationsOf {d : Draft} {r : Draft.Resource} {op : Draft.Operation} :
    (r, op) ∈ operationsOf d ↔ r ∈ d.resources ∧ op ∈ r.operations := by
  simp [operationsOf]

/-- To go through all operations is to go through the resources and the operations of each. -/
theorem flatMap_operationsOf {β : Type} (d : Draft)
    (check : Draft.Resource × Draft.Operation → List β) :
    (operationsOf d).flatMap check =
      d.resources.flatMap fun r => r.operations.flatMap fun op => check (r, op) := by
  simp only [operationsOf, List.flatMap_assoc, List.flatMap_map]

/-- A rule that goes through all operations is silent when it is silent about each. -/
theorem flatMap_operationsOf_eq_nil_iff {d : Draft}
    {check : Draft.Resource × Draft.Operation → List Text} :
    (operationsOf d).flatMap check = [] ↔
      ∀ r ∈ d.resources, ∀ op ∈ r.operations, check (r, op) = [] := by
  rw [List.flatMap_eq_nil_iff]
  constructor
  · intro h r hr op hop
    exact h (r, op) (mem_operationsOf.2 ⟨hr, hop⟩)
  · rintro h ⟨r, op⟩ hop
    obtain ⟨hr, hop⟩ := mem_operationsOf.1 hop
    exact h r hr op hop

theorem operations_eq_nil_iff {d : Draft} :
    operations d = [] ↔ ∀ r ∈ d.resources, ∀ op ∈ r.operations, op.warnings = [] := by
  simp only [operations, List.map_eq_nil_iff, List.filter_eq_nil_iff]
  constructor
  · intro h r hr op hop
    simpa using h (r, op) (mem_operationsOf.2 ⟨hr, hop⟩)
  · rintro h ⟨r, op⟩ hop
    obtain ⟨hr, hop⟩ := mem_operationsOf.1 hop
    simp [h r hr op hop]

theorem operationBody_eq_nil_iff {types : Declarations} {r : Draft.Resource}
    {op : Draft.Operation} :
    operationBody types r op = [] ↔ ∀ b ∈ op.body, HasType types b.type := by
  unfold operationBody HasType
  cases op.body with
  | none => simp
  | some b => cases hb : b.type <;> simp [hb, Option.isSome_iff_ne_none]

theorem parameterBodies_eq_nil_iff {d : Draft} :
    parameterBodies d = [] ↔ ∀ r ∈ d.resources, ∀ op ∈ r.operations,
      ∀ b ∈ op.body, HasType d.declarations b.type := by
  unfold parameterBodies
  rw [flatMap_operationsOf_eq_nil_iff]
  simp only [operationBody_eq_nil_iff]

/-! ### Parameters -/

theorem typed?_eq_some_iff {p : Draft.Parameter} {t : Draft.Typed} :
    p.typed? = some t ↔ p.name = some t.name ∧ p.type = some t.type ∧ p.required = t.required := by
  unfold Draft.Parameter.typed?
  obtain ⟨name, type, required⟩ := t
  cases p.name <;> cases p.type <;> simp

theorem missingPart_eq_nil_iff {r : Draft.Resource} {op : Draft.Operation}
    {p : Draft.Parameter} : missingPart r op p = [] ↔ p.name.isSome ∧ p.type.isSome := by
  unfold missingPart
  cases p.name <;> cases p.type <;> simp

theorem parameterType_eq_nil_iff {types : Declarations} {r : Draft.Resource}
    {op : Draft.Operation} {t : Draft.Typed} :
    parameterType types r op t = [] ↔ ∃ type, types.resolve? t.type = some type ∧
      (usesQuery op = true → queryTypeError? type t.type = none) := by
  unfold parameterType
  cases types.resolve? t.type with
  | none => simp
  | some type => by_cases h : usesQuery op = true <;> simp [h]

theorem parameters_eq_nil_iff {d : Draft} :
    parameters d = [] ↔ ∀ r ∈ d.resources, ∀ op ∈ r.operations, ∀ p ∈ op.parameters,
      p.name.isSome ∧ ∃ label type, p.type = some label ∧
        d.declarations.resolve? label = some type ∧
        (usesQuery op = true → queryTypeError? type label = none) := by
  unfold parameters
  rw [List.append_eq_nil_iff, flatMap_operationsOf_eq_nil_iff, flatMap_operationsOf_eq_nil_iff]
  simp only [List.flatMap_eq_nil_iff, missingPart_eq_nil_iff, parameterType_eq_nil_iff,
    Draft.Operation.typedParameters, List.mem_filterMap, typed?_eq_some_iff]
  constructor
  · rintro ⟨complete, types⟩ r hr op hop p hp
    obtain ⟨hn, ht⟩ := complete r hr op hop p hp
    obtain ⟨name, hn⟩ := Option.isSome_iff_exists.1 hn
    obtain ⟨label, ht⟩ := Option.isSome_iff_exists.1 ht
    obtain ⟨type, resolved, query⟩ :=
      types r hr op hop ⟨name, label, p.required⟩ ⟨p, hp, hn, ht, rfl⟩
    exact ⟨by simp [hn], label, type, ht, resolved, query⟩
  · intro h
    refine ⟨fun r hr op hop p hp => ?_, ?_⟩
    · obtain ⟨hn, label, type, ht, -⟩ := h r hr op hop p hp
      exact ⟨hn, by simp [ht]⟩
    · rintro r hr op hop t ⟨p, hp, -, ht, -⟩
      obtain ⟨-, label, type, hl, resolved⟩ := h r hr op hop p hp
      rw [ht, Option.some.injEq] at hl
      subst hl
      exact ⟨type, resolved⟩

/-! ### Placeholders -/

theorem pathParameters_eq_nil_iff {d : Draft} :
    pathParameters d = [] ↔ ∀ r ∈ d.resources, ∀ op ∈ r.operations, ∀ name ∈ op.placeholders,
      invalidInPath? d.declarations (placeholderSource d r op name).type = none := by
  unfold pathParameters
  rw [flatMap_operationsOf_eq_nil_iff]
  simp only [List.flatMap_eq_nil_iff]
  refine forall₂_congr fun r _ => forall₂_congr fun op _ => forall₂_congr fun name _ => ?_
  unfold placeholderType
  cases invalidInPath? d.declarations (placeholderSource d r op name).type <;> simp

theorem pathParametersRequired_eq_nil_iff {d : Draft} :
    pathParametersRequired d = [] ↔ ∀ r ∈ d.resources, ∀ op ∈ r.operations,
      ∀ name ∈ op.placeholders, (placeholderSource d r op name).required = true := by
  unfold pathParametersRequired
  rw [flatMap_operationsOf_eq_nil_iff]
  simp

/-! ### Imports -/

/-- The rule for imports goes over them one by one. -/
theorem outcome_aboutImports (fetch : Fetch) (is : List Draft.Import) :
    ((aboutImports is).run fetch).outcome =
      (is.mapM fun i => ((aboutImport i).run fetch).outcome).map List.flatten := by
  induction is with
  | nil => rfl
  | cons i rest ih =>
    rw [aboutImports, Inquiry.outcome_run_bind, List.mapM_cons]
    cases ((aboutImport i).run fetch).outcome with
    | error fault => rfl
    | ok messages =>
      change ((_ >>= _ : Inquiry Import.Fault (List Text)).run fetch).outcome = _
      rw [Inquiry.outcome_run_bind, ih]
      cases rest.mapM fun i => ((aboutImport i).run fetch).outcome <;> rfl

theorem aboutImport_eq_ok_nil_iff {fetch : Fetch} {i : Draft.Import} :
    ((aboutImport i).run fetch).outcome = .ok [] ↔
      ∃ uri, i.uri = some uri ∧ Uri.problem? uri = none ∧
        ((Import.check uri).run fetch).outcome = .ok [] := by
  unfold aboutImport
  cases i.uri with
  | none => simp [Inquiry.outcome_run_pure]
  | some uri => cases h : Uri.problem? uri <;> simp [Uri.problems, h, Inquiry.outcome_run_pure]

theorem aboutImport_isOk_eq_false_iff {fetch : Fetch} {i : Draft.Import} :
    ((aboutImport i).run fetch).outcome.isOk = false ↔
      ∃ uri, i.uri = some uri ∧ Uri.problem? uri = none ∧
        ((Import.check uri).run fetch).outcome.isOk = false := by
  unfold aboutImport
  cases i.uri with
  | none => simp [Inquiry.outcome_run_pure]
  | some uri => cases h : Uri.problem? uri <;> simp [h, Inquiry.outcome_run_pure]

/-- The rule stops exactly when it does so at some import. -/
theorem imports_isOk_eq_false_iff {fetch : Fetch} {d : Draft} :
    ((imports d).run fetch).outcome.isOk = false ↔ ∃ i ∈ d.imports, ∃ uri, i.uri = some uri ∧
      Uri.problem? uri = none ∧ ((Import.check uri).run fetch).outcome.isOk = false := by
  rw [imports, outcome_aboutImports, isOk_map, mapM_isOk_eq_false_iff]
  simp only [aboutImport_isOk_eq_false_iff]

theorem imports_eq_ok_nil_iff {fetch : Fetch} {d : Draft} :
    ((imports d).run fetch).outcome = .ok [] ↔ ∀ i ∈ d.imports, ∃ uri, i.uri = some uri ∧
      Uri.problem? uri = none ∧ ((Import.check uri).run fetch).outcome = .ok [] := by
  simp only [imports, outcome_aboutImports, mapM_flatten_eq_nil_iff,
    aboutImport_eq_ok_nil_iff]

end ServiceContract.Rule
