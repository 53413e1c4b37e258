import ServiceContract.Proofs.Service.Check

/-!
# Consistent services

A service is consistent when no name in it is used twice for things that have to be told apart,
no enum and no union is empty, and all that it refers to is declared.  The checks of the whole
service find nothing exactly in consistent services, also in those that no document describes;
and what is repeated in an enum, in a model or among the headers is reported there once, in
ascending order (`errors_eq_nil_iff_consistent`).
-/

namespace ServiceContract.Service

structure Consistent (s : Service) : Prop where
  typeNames : s.declarations.names.Nodup
  enumValues : ∀ e ∈ s.enums, e.values ≠ [] ∧ (e.values.map (·.name)).Nodup
  fields : ∀ m ∈ s.models, (m.fields.map (·.name)).Nodup
  unionMembers : ∀ u ∈ s.unions, u.members ≠ [] ∧
    ∀ m ∈ u.members, (s.declarations.resolveText? m.type).isSome
  headers : (∀ h ∈ s.headers, (s.declarations.resolveText? h.type).isSome) ∧
    (s.headers.map (·.name)).Nodup
  resources : ∀ r ∈ s.resources, r.type ∈ s.declarations.names ∧
    (r.operations.map fun op => (op.method, op.path)).Nodup

theorem consistent_iff_checks {s : Service} :
    s.Consistent ↔ s.typeNameErrors = [] ∧ (∀ e ∈ s.enums, enumErrors e = []) ∧
      (∀ m ∈ s.models, modelErrors m = []) ∧
      (∀ u ∈ s.unions, unionErrors s.declarations u = []) ∧ s.headerErrors = [] ∧
      ∀ r ∈ s.resources, resourceErrors s.declarations r = [] := by
  simp only [typeNameErrors_eq_nil_iff, enumErrors_eq_nil_iff, modelErrors_eq_nil_iff,
    unionErrors_eq_nil_iff, headerErrors_eq_nil_iff, resourceErrors_eq_nil_iff]
  constructor
  · intro h
    exact ⟨h.typeNames, h.enumValues, h.fields, h.unionMembers, h.headers, h.resources⟩
  · rintro ⟨typeNames, enumValues, fields, unionMembers, headers, resources⟩
    exact ⟨typeNames, enumValues, fields, unionMembers, headers, resources⟩

/-! ### Reports of repeated names -/

/-- The message about a text that occurs more than once in the element `label`. -/
def repetition (label text : Text) : Text := label ++ "[" ++ text ++ "] appears more than once"

/-- What is wrong with an enum apart from repeated values. -/
def noValues (e : Enum) : List Text :=
  if e.values.isEmpty then ["Enum[" ++ e.name ++ "] must have at least one value"] else []

/-- What is wrong with the headers apart from repeated names. -/
def unresolvedHeaders (s : Service) : List Text :=
  (s.headers.filter fun h => (s.declarations.resolveText? h.type).isNone).map invalidHeader

/-- A check for repeated names has one message for each of them, in ascending order. -/
theorem exists_repeats (label : Text) (names : List Text) : ∃ repeats,
    Text.IsRepeats names repeats ∧ repeated label names = repeats.map (repetition label) :=
  ⟨Text.duplicates names, Text.isRepeats_duplicates names, rfl⟩

/-- The errors of a service are none exactly when it is consistent.  Among them are, for each enum
the repeated names of its values, for each model those of its fields, and those of the headers,
every one once and in ascending order. -/
theorem errors_eq_nil_iff_consistent (s : Service) :
    (s.errors = [] ↔ s.Consistent) ∧
    ∃ (values : Enum → List Text) (fields : Model → List Text) (headers : List Text),
      (∀ e, Text.IsRepeats (e.values.map (·.name)) (values e)) ∧
      (∀ m, Text.IsRepeats (m.fields.map (·.name)) (fields m)) ∧
      Text.IsRepeats (s.headers.map (·.name)) headers ∧
      s.errors = s.typeNameErrors ++
        (s.enums.flatMap fun e =>
          noValues e ++ (values e).map (repetition ("Enum[" ++ e.name ++ "] value"))) ++
        (s.models.flatMap fun m => (fields m).map (repetition ("Model[" ++ m.name ++ "] field"))) ++
        s.unions.flatMap (unionErrors s.declarations) ++
        (s.unresolvedHeaders ++ headers.map (repetition "Header")) ++
        s.resources.flatMap (resourceErrors s.declarations) := by
  refine ⟨by rw [errors_eq_nil_iff, consistent_iff_checks], ?_⟩
  choose values hvalues enumReport using fun e : Enum =>
    exists_repeats ("Enum[" ++ e.name ++ "] value") (e.values.map (·.name))
  choose fields hfields modelReport using fun m : Model =>
    exists_repeats ("Model[" ++ m.name ++ "] field") (m.fields.map (·.name))
  obtain ⟨headers, hheaders, headerReport⟩ := exists_repeats "Header" (s.headers.map (·.name))
  refine ⟨values, fields, headers, hvalues, hfields, hheaders, ?_⟩
  have henums : enumErrors = fun e =>
      noValues e ++ (values e).map (repetition ("Enum[" ++ e.name ++ "] value")) := by
    funext e
    rw [enumErrors, enumReport, noValues]
  have hmodels : modelErrors = fun m =>
      (fields m).map (repetition ("Model[" ++ m.name ++ "] field")) := by
    funext m
    rw [modelErrors, modelReport]
  rw [errors, henums, hmodels, headerErrors, headerReport, unresolvedHeaders]

example : enumErrors ⟨"mood", "moods", none, [⟨"sad", none⟩, ⟨"good", none⟩, ⟨"sad", none⟩,
    ⟨"good", none⟩]⟩ = (["Enum[mood] value[good] appears more than once",
      "Enum[mood] value[sad] appears more than once"] : List Text) := by decide +kernel

end ServiceContract.Service
