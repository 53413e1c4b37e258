import ServiceContract.Proofs.Path
import ServiceContract.Proofs.Rule.Offender

/-!
# Where the type of a placeholder comes from

A placeholder takes its type, and whether it is required, from the last parameter of its name, or
else from the last field of its name in the first model of the resource, or else it is a required
string.  `IsSource` says this by the places in the lists; the rules look the same source up
(`isSource_iff`), for the type and for the flag.  So each rule for placeholders has one message
about each placeholder whose source is not as it should be, in the order in which placeholders
first occur in the path (`placeholders_judged_by_source`).
-/

namespace ServiceContract

theorem Draft.Operation.placeholders_pairwise (op : Draft.Operation) :
    op.placeholders.Pairwise fun x y =>
      (Path.occurrences op.path).idxOf x < (Path.occurrences op.path).idxOf y :=
  Text.eraseDups_pairwise_idxOf _

theorem Draft.Operation.mem_placeholders {op : Draft.Operation} {name : Text} :
    name ∈ op.placeholders ↔ name ∈ Path.occurrences op.path :=
  List.mem_eraseDups

namespace Rule

variable {d : Draft} {r : Draft.Resource} {op : Draft.Operation} {name : Text} {t : Draft.Typed}

/-! ### The last of a name, and the first model -/

/-- The last one that has the name. -/
def IsLastNamed (name : Text) (all : List Draft.Typed) (t : Draft.Typed) : Prop :=
  t.name = name ∧ ∃ before after, all = before ++ t :: after ∧ ∀ u ∈ after, u.name ≠ name

/-- The first model that has the name of the resource. -/
def IsFirstModel (d : Draft) (r : Draft.Resource) (m : Draft.Model) : Prop :=
  m.name = r.type.text ∧
    ∃ before after, d.models = before ++ m :: after ∧ ∀ m' ∈ before, m'.name ≠ r.type.text

theorem lastNamed?_eq_some_iff {all : List Draft.Typed} :
    lastNamed? name all = some t ↔ IsLastNamed name all t := by
  unfold lastNamed? IsLastNamed
  rw [List.find?_eq_some_iff_append]
  refine and_congr beq_iff_eq ⟨?_, ?_⟩
  · rintro ⟨later, earlier, hsplit, hlater⟩
    refine ⟨earlier.reverse, later.reverse, ?_, fun u hu => ?_⟩
    · rw [← all.reverse_reverse, hsplit]
      simp
    · simpa using hlater u (List.mem_reverse.1 hu)
  · rintro ⟨before, after, rfl, hafter⟩
    refine ⟨after.reverse, before.reverse, by simp, fun u hu => ?_⟩
    simpa using hafter u (List.mem_reverse.1 hu)

theorem lastNamed?_eq_none_iff {all : List Draft.Typed} :
    lastNamed? name all = none ↔ ∀ u ∈ all, u.name ≠ name := by
  simp [lastNamed?]

theorem findModel?_eq_some_iff {m : Draft.Model} :
    d.findModel? r.type.text = some m ↔ IsFirstModel d r m := by
  unfold Draft.findModel? IsFirstModel
  rw [List.find?_eq_some_iff_append]
  simp

/-! ### Sources -/

/-- No field of the name with a type in the first model of the resource. -/
def HasNoField (d : Draft) (r : Draft.Resource) (name : Text) : Prop :=
  ∀ m, IsFirstModel d r m → ∀ t ∈ m.typedFields, t.name ≠ name

/-- Where the type of the placeholder comes from, and whether it is required. -/
inductive IsSource (d : Draft) (r : Draft.Resource) (op : Draft.Operation) (name : Text) :
    Draft.Typed → Prop
  | parameter {t : Draft.Typed} (h : IsLastNamed name op.typedParameters t) : IsSource d r op name t
  | field {m : Draft.Model} {t : Draft.Typed} (hp : ∀ u ∈ op.typedParameters, u.name ≠ name)
      (hm : IsFirstModel d r m) (h : IsLastNamed name m.typedFields t) : IsSource d r op name t
  | string (hp : ∀ u ∈ op.typedParameters, u.name ≠ name) (hf : HasNoField d r name) :
      IsSource d r op name ⟨name, Label.ofText Primitive.string.name, true⟩

theorem lastNamed?_resourceFields_eq_some_iff :
    lastNamed? name (resourceFields d r) = some t ↔
      ∃ m, IsFirstModel d r m ∧ IsLastNamed name m.typedFields t := by
  unfold resourceFields
  simp only [← findModel?_eq_some_iff]
  cases d.findModel? r.type.text with
  | none => simp [lastNamed?]
  | some m => simp [lastNamed?_eq_some_iff]

theorem lastNamed?_resourceFields_eq_none_iff :
    lastNamed? name (resourceFields d r) = none ↔ HasNoField d r name := by
  unfold resourceFields HasNoField
  simp only [← findModel?_eq_some_iff]
  cases d.findModel? r.type.text with
  | none => simp [lastNamed?]
  | some m => simp [lastNamed?_eq_none_iff]

/-- The source that the rules look up is the one and only source. -/
theorem isSource_iff : IsSource d r op name t ↔ t = placeholderSource d r op name := by
  unfold placeholderSource
  constructor
  · rintro (h | ⟨hp, hm, h⟩ | ⟨hp, hf⟩)
    · rw [lastNamed?_eq_some_iff.2 h]
      rfl
    · rw [lastNamed?_eq_none_iff.2 hp, lastNamed?_resourceFields_eq_some_iff.2 ⟨_, hm, h⟩]
      rfl
    · rw [lastNamed?_eq_none_iff.2 hp, lastNamed?_resourceFields_eq_none_iff.2 hf]
      rfl
  · rintro rfl
    cases hp : lastNamed? name op.typedParameters with
    | some t => exact .parameter (lastNamed?_eq_some_iff.1 hp)
    | none =>
      have hp := lastNamed?_eq_none_iff.1 hp
      cases hf : lastNamed? name (resourceFields d r) with
      | some t =>
        obtain ⟨m, hm, h⟩ := lastNamed?_resourceFields_eq_some_iff.1 hf
        exact .field hp hm h
      | none => exact .string hp (lastNamed?_resourceFields_eq_none_iff.1 hf)

/-! ### Types that can be written in a path -/

/-- A type can be written in a path when it is an enum or a primitive of those that can. -/
theorem isValidInPath_iff {ref : TypeRef} : isValidInPath ref = true ↔
    ref.kind = .enumeration ∨
      (ref.kind = .primitive ∧ ∃ p ∈ Primitive.validInPath, p.name = ref.name) := by
  unfold isValidInPath
  cases ref.kind <;> simp [Primitive.isValidInPath]

theorem invalidInPath?_eq_none_iff {types : Declarations} {label : Label} :
    invalidInPath? types label = none ↔
      ∃ ref, types.resolve? label = some (.scalar ref) ∧ isValidInPath ref = true := by
  unfold invalidInPath?
  split <;> simp_all

/-- The label resolves to an enum, or to a primitive that can be written in a path, and to no
list or map. -/
def FitsPath (types : Declarations) (label : Label) : Prop :=
  ∃ ref, types.resolve? label = some (.scalar ref) ∧ (ref.kind = .enumeration ∨
    (ref.kind = .primitive ∧ ∃ p ∈ Primitive.validInPath, p.name = ref.name))

theorem fitsPath_iff {types : Declarations} {label : Label} :
    FitsPath types label ↔ invalidInPath? types label = none := by
  simp only [FitsPath, invalidInPath?_eq_none_iff, isValidInPath_iff]

instance (types : Declarations) (label : Label) : Decidable (FitsPath types label) :=
  decidable_of_iff _ fitsPath_iff.symm

theorem fitsPath_string (types : Declarations) :
    FitsPath types (Label.ofText Primitive.string.name) := by
  have hname : (Label.ofText Primitive.string.name).name = Primitive.string.name := by decide
  have hprimitive : Primitive.isName Primitive.string.name = true := by decide
  refine ⟨⟨.primitive, Primitive.string.name⟩, ?_, Or.inr ⟨rfl, .string, by decide, rfl⟩⟩
  rw [Declarations.resolve?, Declarations.find?, hname, if_pos hprimitive]
  decide

/-! ### What the rules report -/

/-- What a label stands for that cannot be written in a path. -/
def foundInPath (types : Declarations) (label : Label) : Text :=
  match types.resolve? label with
  | none => label.text
  | some (.listOf _) => "list"
  | some (.mapOf _) => "map"
  | some (.scalar ref) => ref.name

/-- The message about a placeholder whose type cannot be written in a path. -/
def unfitPlaceholder (d : Draft) (r : Draft.Resource) (op : Draft.Operation) (name : Text) :
    Text :=
  placeholderLabel r op name ++ "has an invalid type[" ++
    foundInPath d.declarations (placeholderSource d r op name).type ++
    "]. Valid types for path parameters are: " ++
    Text.join ", " (Primitive.validInPath.map Primitive.name)

/-- The message about a placeholder that is optional. -/
def optionalPlaceholder (r : Draft.Resource) (op : Draft.Operation) (name : Text) : Text :=
  placeholderLabel r op name ++ "is specified as optional. All path parameters are required"

theorem invalidInPath?_eq (types : Declarations) (label : Label) :
    invalidInPath? types label =
      if FitsPath types label then none else some (foundInPath types label) := by
  simp only [fitsPath_iff]
  unfold invalidInPath? foundInPath
  cases types.resolve? label with
  | none => rfl
  | some type =>
    cases type with
    | scalar ref => by_cases hv : isValidInPath ref = true <;> simp [hv]
    | listOf ref => rfl
    | mapOf ref => rfl

theorem placeholderType_eq (d : Draft) (r : Draft.Resource) (op : Draft.Operation)
    (name : Text) : placeholderType d r op name =
      if ¬ FitsPath d.declarations (placeholderSource d r op name).type then
        [unfitPlaceholder d r op name]
      else [] := by
  unfold placeholderType unfitPlaceholder
  rw [invalidInPath?_eq]
  by_cases h : FitsPath d.declarations (placeholderSource d r op name).type <;> simp [h]

theorem pathParameters_eq (d : Draft) : pathParameters d =
    d.resources.flatMap fun r => r.operations.flatMap fun op =>
      (op.placeholders.filter fun name =>
        ¬ FitsPath d.declarations (placeholderSource d r op name).type).map
          (unfitPlaceholder d r op) := by
  rw [pathParameters, flatMap_operationsOf]
  refine List.flatMap_congr fun r _ => List.flatMap_congr fun op _ => ?_
  refine flatMap_eq_map_filter _ fun name _ => ?_
  simp [placeholderType_eq]

theorem pathParametersRequired_eq (d : Draft) : pathParametersRequired d =
    d.resources.flatMap fun r => r.operations.flatMap fun op =>
      (op.placeholders.filter fun name => (placeholderSource d r op name).required = false).map
        (optionalPlaceholder r op) := by
  rw [pathParametersRequired, flatMap_operationsOf]
  refine List.flatMap_congr fun r _ => List.flatMap_congr fun op _ => ?_
  -- the rule negates the flag, which is here a condition on it
  have hoptional : (fun name => !(placeholderSource d r op name).required) =
      fun name => decide ((placeholderSource d r op name).required = false) := by
    funext name
    cases (placeholderSource d r op name).required <;> rfl
  dsimp only
  rw [hoptional]
  rfl

/-- A placeholder that no parameter and no field has the name of is a required string. -/
theorem placeholderSource_eq_string (hp : ∀ u ∈ op.typedParameters, u.name ≠ name)
    (hf : HasNoField d r name) :
    placeholderSource d r op name = ⟨name, Label.ofText Primitive.string.name, true⟩ :=
  (isSource_iff.1 (.string hp hf)).symm

/-- The rules for placeholders have one message about each placeholder whose source has a type
that cannot be written in a path, or is optional, resource by resource, operation by operation and
in the order of first occurrence, and no other message.  Every placeholder has exactly one source, and one that matches
neither a parameter nor a field draws no message. -/
theorem placeholders_judged_by_source (d : Draft) :
    pathParameters d = (d.resources.flatMap fun r => r.operations.flatMap fun op =>
      (op.placeholders.filter fun name =>
        ¬ FitsPath d.declarations (placeholderSource d r op name).type).map
          (unfitPlaceholder d r op)) ∧
    pathParametersRequired d = (d.resources.flatMap fun r => r.operations.flatMap fun op =>
      (op.placeholders.filter fun name => (placeholderSource d r op name).required = false).map
        (optionalPlaceholder r op)) ∧
    (∀ r op name t, IsSource d r op name t ↔ t = placeholderSource d r op name) ∧
    (∀ op : Draft.Operation,
      (∀ name, name ∈ op.placeholders ↔ name ∈ Path.occurrences op.path) ∧
      op.placeholders.Pairwise fun x y =>
        (Path.occurrences op.path).idxOf x < (Path.occurrences op.path).idxOf y) ∧
    (∀ r op name, (∀ u ∈ Draft.Operation.typedParameters op, u.name ≠ name) →
      HasNoField d r name →
      FitsPath d.declarations (placeholderSource d r op name).type ∧
        (placeholderSource d r op name).required = true) := by
  refine ⟨pathParameters_eq d, pathParametersRequired_eq d, fun _ _ _ _ => isSource_iff,
    fun op => ⟨fun _ => op.mem_placeholders, op.placeholders_pairwise⟩, ?_⟩
  intro r op name hp hf
  rw [placeholderSource_eq_string hp hf]
  exact ⟨fitsPath_string _, rfl⟩

end Rule

end ServiceContract
