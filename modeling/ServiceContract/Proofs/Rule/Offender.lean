import ServiceContract.Proofs.Rule.Element

/-!
# One message for each offender

The rules for fields, bodies and parameters go through the elements of a draft in document order
and have one message about each element that is not as it should be, and none about the others.
Their messages come in families: the list of a family is the list of its offenders, each turned
into its message (`messages_account_for_offenders`).

A parameter without a name or a type is incomplete, and its type is not looked at; so no parameter
is an offender of both families of its rule.
-/

namespace ServiceContract.Rule

/-! ### Offenders in a list -/

section

variable {α β γ : Type} {xs : List α}

/-- A check that has one message about an offender and none about anything else. -/
theorem flatMap_eq_map_filter {p : α → Bool} {message : α → β} (check : α → List β)
    (h : ∀ x ∈ xs, check x = if p x then [message x] else []) :
    xs.flatMap check = (xs.filter p).map message := by
  induction xs with
  | nil => rfl
  | cons x xs ih =>
    obtain ⟨hx, hxs⟩ := List.forall_mem_cons.1 h
    rw [List.flatMap_cons, hx, ih hxs]
    by_cases hp : p x <;> simp [hp]

/-- A check of what some elements hold. -/
theorem flatMap_filterMap (part : α → Option β) (check : β → List γ) :
    (xs.filterMap part).flatMap check = xs.flatMap fun x => ((part x).map check).getD [] := by
  rw [List.filterMap_eq_flatMap_toList, List.flatMap_assoc]
  refine List.flatMap_congr fun x _ => ?_
  cases part x <;> simp

end

instance (types : Declarations) (type : Option Label) : Decidable (HasType types type) :=
  decidable_of_iff (∃ label ∈ type, (types.resolve? label).isSome) Iff.rfl

/-! ### Fields -/

/-- The fields of all models, in document order. -/
def fieldsOf (d : Draft) : List (Draft.Model × Draft.Field) :=
  d.models.flatMap fun m => m.fields.map fun f => (m, f)

/-- The fields that have a name, with this name. -/
def namedFieldsOf (d : Draft) : List (Draft.Model × Text × Draft.Field) :=
  (fieldsOf d).filterMap fun (m, f) => f.name.map fun name => (m, name, f)

/-- The message about a field whose type is missing or does not resolve. -/
def mistypedField (m : Draft.Model) (name : Text) (f : Draft.Field) : Text :=
  match f.type with
  | none => "Model[" ++ m.name ++ "] field[" ++ name ++ "] must have a type"
  | some label =>
    "Model[" ++ m.name ++ "] field[" ++ name ++ "] has an invalid type[" ++ label.name ++ "]"

/-- The message about a field with warnings. -/
def warnedField (m : Draft.Model) (name : Text) (f : Draft.Field) : Text :=
  "Model[" ++ m.name ++ "] field[" ++ name ++ "]: " ++ Text.join ", " f.warnings

theorem aboutNamedFields_eq (d : Draft) (check : Draft.Model → Text → Draft.Field → List Text) :
    aboutNamedFields d check = (namedFieldsOf d).flatMap fun (m, name, f) => check m name f := by
  rw [namedFieldsOf, flatMap_filterMap, fieldsOf, List.flatMap_assoc]
  refine List.flatMap_congr fun m _ => ?_
  rw [List.flatMap_map]
  refine List.flatMap_congr fun f _ => ?_
  dsimp only
  cases f.name <;> rfl

theorem fieldType_eq (types : Declarations) (m : Draft.Model) (name : Text) (f : Draft.Field) :
    fieldType types m name f =
      if ¬ HasType types f.type then [mistypedField m name f] else [] := by
  unfold fieldType mistypedField HasType
  cases f.type with
  | none => simp
  | some label => cases types.resolve? label <;> simp

theorem fields_eq (d : Draft) : fields d =
    ((namedFieldsOf d).filter fun (_, _, f) => ¬ HasType d.declarations f.type).map
        (fun (m, name, f) => mistypedField m name f) ++
      ((fieldsOf d).filter fun (_, f) => f.name.isNone).map (fun (m, _) => unnamedField m) ++
      ((namedFieldsOf d).filter fun (_, _, f) => f.warnings ≠ []).map
        (fun (m, name, f) => warnedField m name f) := by
  unfold fields
  rw [aboutNamedFields_eq, aboutNamedFields_eq]
  congr 1
  · congr 1
    · exact flatMap_eq_map_filter _ fun (m, name, f) _ => by simp [fieldType_eq]
    · rw [fieldsOf, List.filter_flatMap, List.map_flatMap]
      refine List.flatMap_congr fun m _ => ?_
      rw [List.filter_map, List.map_map]
      rfl
  · exact flatMap_eq_map_filter _ fun (m, name, f) _ => by simp [fieldWarnings, warnedField]

/-! ### Bodies -/

/-- The bodies of the operations that have one, in document order. -/
def bodiesOf (d : Draft) : List (Draft.Resource × Draft.Operation × Draft.Body) :=
  d.resources.flatMap fun r => r.operations.filterMap fun op => op.body.map fun body => (r, op, body)

/-- The message about a body whose type is missing or does not resolve. -/
def mistypedBody (r : Draft.Resource) (op : Draft.Operation) (body : Draft.Body) : Text :=
  match body.type with
  | none => operationLabel r op ++ ": Body missing type"
  | some label => operationLabel r op ++ ": Body has an invalid type[" ++ label.name ++ "]"

theorem operationBody_eq (types : Declarations) (r : Draft.Resource) (op : Draft.Operation) :
    operationBody types r op = (op.body.map fun body =>
      if ¬ HasType types body.type then [mistypedBody r op body] else []).getD [] := by
  unfold operationBody mistypedBody HasType
  cases op.body with
  | none => rfl
  | some body =>
    cases hl : body.type with
    | none => simp [hl]
    | some label => cases hr : types.resolve? label <;> simp [hl, hr]

theorem parameterBodies_eq (d : Draft) : parameterBodies d =
    ((bodiesOf d).filter fun (_, _, body) => ¬ HasType d.declarations body.type).map
      fun (r, op, body) => mistypedBody r op body := by
  rw [← flatMap_eq_map_filter (fun (r, op, body) =>
    if ¬ HasType d.declarations body.type then [mistypedBody r op body] else []), bodiesOf,
    List.flatMap_assoc, parameterBodies, flatMap_operationsOf]
  · refine List.flatMap_congr fun r _ => ?_
    rw [flatMap_filterMap]
    refine List.flatMap_congr fun op _ => ?_
    dsimp only
    rw [operationBody_eq]
    cases op.body <;> rfl
  · rintro ⟨r, op, body⟩ -
    simp

/-! ### Parameters -/

/-- The parameters of all operations, in document order. -/
def parametersOf (d : Draft) : List (Draft.Resource × Draft.Operation × Draft.Parameter) :=
  d.resources.flatMap fun r => r.operations.flatMap fun op => op.parameters.map fun p => (r, op, p)

/-- The parameters that have a name and a type, with these. -/
def typedParametersOf (d : Draft) : List (Draft.Resource × Draft.Operation × Draft.Typed) :=
  (parametersOf d).filterMap fun (r, op, p) => p.typed?.map fun t => (r, op, t)

/-- The message about a parameter without a name or, if it has one, without a type. -/
def incompleteParameter (r : Draft.Resource) (op : Draft.Operation) (p : Draft.Parameter) : Text :=
  match p.name with
  | none => operationLabel r op ++ ": Missing name"
  | some name => operationLabel r op ++ ": Parameter[" ++ name ++ "] is missing a type"

/-- The operation has a method, and besides a body or the method `GET`. -/
def TakesQuery (op : Draft.Operation) : Prop :=
  ∃ method ∈ op.method, op.body.isSome ∨ Method.ofText? method = some .get

instance (op : Draft.Operation) : Decidable (TakesQuery op) :=
  inferInstanceAs (Decidable (∃ method ∈ op.method, _ ∨ _))

/-- A map, a model, a union, or a list of models or unions. -/
def IsComposite : Datatype → Prop
  | .mapOf _ => True
  | .scalar ref | .listOf ref => ref.kind = .model ∨ ref.kind = .union

instance : DecidablePred IsComposite
  | .mapOf _ => .isTrue trivial
  | .scalar ref | .listOf ref => inferInstanceAs (Decidable (ref.kind = .model ∨ ref.kind = .union))

/-- The label does not resolve, or resolves to a type that no query parameter can have, in an
operation that takes its parameters from the query. -/
def IsUnfit (types : Declarations) (op : Draft.Operation) (label : Label) : Prop :=
  types.resolve? label = none ∨ TakesQuery op ∧ ∃ type ∈ types.resolve? label, IsComposite type

instance (types : Declarations) (op : Draft.Operation) (label : Label) :
    Decidable (IsUnfit types op label) :=
  inferInstanceAs (Decidable (_ ∨ _ ∧ ∃ type ∈ types.resolve? label, IsComposite type))

/-- What is wrong with a label that is unfit. -/
def unfitLabel (types : Declarations) (label : Label) : Text :=
  match types.resolve? label with
  | none => "has an invalid type: " ++ label.text
  | some (.mapOf _) =>
    "has an invalid type[" ++ label.text ++ "]. Maps are not supported as query parameters."
  | some _ =>
    "has an invalid type[" ++ label.name ++
      "]. Model and union types are not supported as query parameters."

/-- The message about a parameter whose type is unfit. -/
def unfitParameter (types : Declarations) (r : Draft.Resource) (op : Draft.Operation)
    (t : Draft.Typed) : Text :=
  operationLabel r op ++ ": Parameter[" ++ t.name ++ "] " ++ unfitLabel types t.type

theorem missingPart_eq (r : Draft.Resource) (op : Draft.Operation) (p : Draft.Parameter) :
    missingPart r op p =
      if p.name = none ∨ p.type = none then [incompleteParameter r op p] else [] := by
  unfold missingPart incompleteParameter
  cases p.name <;> cases p.type <;> simp

theorem usesQuery_iff {op : Draft.Operation} : usesQuery op = true ↔ TakesQuery op := by
  unfold usesQuery TakesQuery
  cases op.method <;> simp

theorem queryTypeError?_eq (types : Declarations) {type : Datatype} {label : Label}
    (h : types.resolve? label = some type) :
    queryTypeError? type label = if IsComposite type then some (unfitLabel types label) else none := by
  unfold unfitLabel
  rw [h]
  cases type <;> simp [queryTypeError?, IsComposite, Datatype.ref]

theorem isUnfit_iff {types : Declarations} {op : Draft.Operation} {label : Label}
    {type : Datatype} (h : types.resolve? label = some type) :
    IsUnfit types op label ↔ TakesQuery op ∧ IsComposite type := by
  simp [IsUnfit, h]

theorem parameterType_eq (types : Declarations) (r : Draft.Resource) (op : Draft.Operation)
    (t : Draft.Typed) :
    parameterType types r op t =
      if IsUnfit types op t.type then [unfitParameter types r op t] else [] := by
  unfold parameterType unfitParameter
  cases hr : types.resolve? t.type with
  | none =>
    have hunfit : IsUnfit types op t.type := Or.inl hr
    rw [if_pos hunfit, unfitLabel, hr]
    simp
  | some type =>
    simp only [isUnfit_iff hr, queryTypeError?_eq types hr, usesQuery_iff]
    by_cases hquery : TakesQuery op
    · by_cases hc : IsComposite type <;> simp [hquery, hc]
    · simp [hquery]

theorem flatMap_parametersOf (d : Draft)
    (check : Draft.Resource × Draft.Operation × Draft.Parameter → List Text) :
    (parametersOf d).flatMap check = d.resources.flatMap fun r =>
      r.operations.flatMap fun op => op.parameters.flatMap fun p => check (r, op, p) := by
  simp only [parametersOf, List.flatMap_assoc, List.flatMap_map]

theorem typed?_eq_none_iff {p : Draft.Parameter} :
    p.typed? = none ↔ p.name = none ∨ p.type = none := by
  unfold Draft.Parameter.typed?
  cases p.name <;> cases p.type <;> simp

theorem parameters_eq (d : Draft) : parameters d =
    ((parametersOf d).filter fun (_, _, p) => p.name = none ∨ p.type = none).map
        (fun (r, op, p) => incompleteParameter r op p) ++
      ((typedParametersOf d).filter fun (_, op, t) => IsUnfit d.declarations op t.type).map
        (fun (r, op, t) => unfitParameter d.declarations r op t) := by
  unfold parameters
  congr 1
  · rw [← flatMap_eq_map_filter (fun (r, op, p) => missingPart r op p), flatMap_parametersOf,
      flatMap_operationsOf]
    · rintro ⟨r, op, p⟩ -
      simp [missingPart_eq]
  · rw [← flatMap_eq_map_filter (fun (r, op, t) => parameterType d.declarations r op t),
      typedParametersOf, flatMap_filterMap, flatMap_parametersOf, flatMap_operationsOf]
    · refine List.flatMap_congr fun r _ => List.flatMap_congr fun op _ => ?_
      dsimp only
      rw [Draft.Operation.typedParameters, flatMap_filterMap]
      refine List.flatMap_congr fun p _ => ?_
      cases p.typed? <;> rfl
    · rintro ⟨r, op, t⟩ -
      simp [parameterType_eq]

/-- The message about a parameter, of the one family or the other. -/
def aboutParameter? (types : Declarations) :
    Draft.Resource × Draft.Operation × Draft.Parameter → Option Text
  | (r, op, p) =>
    match p.typed? with
    | none => some (incompleteParameter r op p)
    | some t => if IsUnfit types op t.type then some (unfitParameter types r op t) else none

/-- No parameter has more than one message: the two families split the parameters between them. -/
theorem parameters_perm (d : Draft) :
    (parameters d).Perm ((parametersOf d).filterMap (aboutParameter? d.declarations)) := by
  have hsplit := (List.filter_append_perm (fun (_, _, p) => (p : Draft.Parameter).typed?.isNone)
    (parametersOf d)).filterMap (aboutParameter? d.declarations)
  rw [List.filterMap_append] at hsplit
  refine List.Perm.trans (List.Perm.of_eq ?_) hsplit
  rw [parameters_eq]
  -- each family is what the parameters of one part of the split have to say
  congr 1
  · rw [← List.filterMap_eq_map, List.filterMap_filter, List.filterMap_filter]
    refine List.filterMap_congr fun (r, op, p) _ => ?_
    obtain ht | ⟨t, ht⟩ := Option.eq_none_or_eq_some p.typed? <;>
      simp [aboutParameter?, ← typed?_eq_none_iff, ht]
  · rw [typedParametersOf, ← List.filterMap_eq_map, List.filterMap_filter, List.filterMap_filterMap,
      List.filterMap_filter]
    refine List.filterMap_congr fun (r, op, p) _ => ?_
    obtain ht | ⟨t, ht⟩ := Option.eq_none_or_eq_some p.typed? <;> simp [aboutParameter?, ht]

/-! ### The families of the three rules -/

/-- The messages of the rules for fields, parameters and bodies, family by family: each family has
one message about each of its offenders, in document order, and no other message.  No parameter has
a message in both families of its rule. -/
theorem messages_account_for_offenders (d : Draft) :
    fields d =
      ((namedFieldsOf d).filter fun (_, _, f) => ¬ HasType d.declarations f.type).map
          (fun (m, name, f) => mistypedField m name f) ++
        ((fieldsOf d).filter fun (_, f) => f.name.isNone).map (fun (m, _) => unnamedField m) ++
        ((namedFieldsOf d).filter fun (_, _, f) => f.warnings ≠ []).map
          (fun (m, name, f) => warnedField m name f) ∧
    parameters d =
      ((parametersOf d).filter fun (_, _, p) => p.name = none ∨ p.type = none).map
          (fun (r, op, p) => incompleteParameter r op p) ++
        ((typedParametersOf d).filter fun (_, op, t) => IsUnfit d.declarations op t.type).map
          (fun (r, op, t) => unfitParameter d.declarations r op t) ∧
    (parameters d).Perm ((parametersOf d).filterMap (aboutParameter? d.declarations)) ∧
    parameterBodies d =
      ((bodiesOf d).filter fun (_, _, body) => ¬ HasType d.declarations body.type).map
        (fun (r, op, body) => mistypedBody r op body) :=
  ⟨fields_eq d, parameters_eq d, parameters_perm d, parameterBodies_eq d⟩

end ServiceContract.Rule
